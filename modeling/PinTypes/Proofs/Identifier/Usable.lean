import PinTypes.Proofs.Enumeration.Labels
import PinTypes.Proofs.Identifier.Words

/-!
# `PinTypes.Proofs.Identifier.Usable` — labels are identifiers

A label is put together from pieces: what is left of the member's text, `Value` or `V` before it where it
cannot stand alone, and the position. Between the pieces stands one underscore, and no piece is empty. Two
texts that are tidy stay tidy that way (`Tidy.append`), and runs of digits are tidy, so every label is; and
it begins as its first piece does, which is never an ASCII digit.

## Contents
- **Tidy pieces.** `tidy_of_alphanumeric`, `tidy_digits`, `tidy_padded`, `Tidy.append`.
- **Usable labels.** `Usable`, `usable_ofList_iff`, `usable_labelFor`, `Usable.suffixed`.
- **Main statement.** `labels_usable`.
-/

namespace PinTypes.Identifier

open PinTypes.Text (isAlphanumeric)
open PinTypes.Number (digits padded)

/-! ## Tidy pieces -/

variable {cs ds : List Char}

theorem isAlphanumeric_of_isDigit {c : Char} (h : c.isDigit = true) : isAlphanumeric c = true := by
  have hc : 48 ≤ c.toNat ∧ c.toNat ≤ 57 := Char.isDigit_iff_toNat.mp h
  have hascii : c.toNat < 0x80 := by omega
  simp [isAlphanumeric, Text.isAsciiAlphanumeric, hascii, hc]

/-- A run of letters and digits is tidy. -/
theorem tidy_of_alphanumeric (h : ∀ c ∈ cs, isAlphanumeric c = true) : Tidy cs := by
  have hnone : '_' ∉ cs := fun hmem => ne_underscore (h '_' hmem) rfl
  refine ⟨fun c hc => Or.inl (h c hc), ?_, ?_, ?_⟩
  · have hpair : cs.Pairwise fun c d => c = '_' → d ≠ '_' := by
      rw [List.pairwise_iff_forall_sublist]
      rintro c d hsub rfl
      exact absurd (hsub.subset List.mem_cons_self) hnone
    exact hpair.isChain
  · exact fun hhead => hnone (List.mem_of_head? hhead)
  · exact fun hlast => hnone (List.mem_of_getLast? hlast)

theorem tidy_digits (n : Nat) : Tidy (digits n) :=
  tidy_of_alphanumeric fun _ hc => isAlphanumeric_of_isDigit (Number.isDigit_of_mem_digits hc)

theorem tidy_padded (width n : Nat) : Tidy (padded width n) :=
  tidy_of_alphanumeric fun _ hc => isAlphanumeric_of_isDigit (Number.isDigit_of_mem_padded hc)

/-- **Tidy pieces with an underscore between them are tidy.** -/
theorem Tidy.append (hc : Tidy cs) (hd : Tidy ds) (hcs : cs ≠ []) (hds : ds ≠ []) :
    Tidy (cs ++ '_' :: ds) where
  named x hx := by
    rcases List.mem_append.mp hx with hfront | hback
    · exact hc.named x hfront
    · rcases List.mem_cons.mp hback with rfl | hback
      · exact Or.inr rfl
      · exact hd.named x hback
  single := by
    refine hc.single.append (List.isChain_cons.mpr ⟨?_, hd.single⟩) ?_
    · intro d hhead _ hu
      exact hd.starts (hu ▸ hhead)
    · intro c hlast _ _ hu
      exact absurd (hu ▸ hlast) hc.ends
  starts := by
    obtain ⟨c, cs, rfl⟩ := List.exists_cons_of_ne_nil hcs
    exact hc.starts
  ends := by
    obtain ⟨d, ds, rfl⟩ := List.exists_cons_of_ne_nil hds
    rw [List.getLast?_append, List.getLast?_cons_cons]
    intro h
    rcases Option.or_eq_some_iff.mp h with hlast | ⟨hnone, -⟩
    · exact hd.ends hlast
    · exact absurd (List.getLast?_eq_none_iff.mp hnone) (List.cons_ne_nil d ds)

/-! ## Usable labels -/

/-- A label that can stand as an identifier: it is not empty, it is made into itself, and it does not start
    with an ASCII digit. -/
structure Usable (label : String) : Prop where
  nonempty : label ≠ ""
  fixed : ofText label = label
  noDigit : ∀ c, label.toList.head? = some c → c.isDigit = false

theorem usable_ofList_iff :
    Usable (String.ofList cs) ↔
      cs ≠ [] ∧ Tidy cs ∧ ∀ c, cs.head? = some c → c.isDigit = false := by
  have hempty : String.ofList cs = "" ↔ cs = [] := by
    rw [← String.toList_inj, String.toList_ofList, String.toList_empty]
  have hfixed : ofText (String.ofList cs) = String.ofList cs ↔ Tidy cs := by
    rw [← String.toList_inj, toList_ofText, String.toList_ofList, identifierChars_eq_self_iff]
  constructor
  · rintro ⟨hne, hfix, hdigit⟩
    rw [String.toList_ofList] at hdigit
    exact ⟨fun h => hne (hempty.mpr h), hfixed.mp hfix, hdigit⟩
  · rintro ⟨hne, htidy, hdigit⟩
    refine ⟨fun h => hne (hempty.mp h), hfixed.mpr htidy, ?_⟩
    rwa [String.toList_ofList]

/-- The label of a member is usable, whatever the member is. -/
theorem usable_labelFor (v : Scalar) (position : Nat) : Usable (labelFor v position) := by
  have htidy := tidy_identifierChars (labelSource v)
  unfold labelFor
  split
  · -- nothing is left of the text
    have hword : Tidy "Value".toList := tidy_of_alphanumeric (List.all_eq_true.mp (by decide))
    rw [usable_ofList_iff]
    refine ⟨by simp, hword.append (tidy_padded 2 position) (by decide) (Number.padded_ne_nil 2 position), ?_⟩
    intro c hc
    obtain rfl : 'V' = c := Option.some.inj hc
    rfl
  · rename_i c cs hcs
    rw [hcs] at htidy
    split
    · rw [usable_ofList_iff]
      have hword : Tidy ['V'] := tidy_of_alphanumeric (List.all_eq_true.mp (by decide))
      refine ⟨by simp, hword.append htidy (by simp) (by simp), ?_⟩
      intro d hd
      obtain rfl : 'V' = d := Option.some.inj hd
      rfl
    · rename_i hdigit
      rw [usable_ofList_iff]
      refine ⟨by simp, htidy, ?_⟩
      simpa using hdigit

/-- A usable label stays usable with a position behind it. -/
theorem Usable.suffixed {label : String} (h : Usable label) (position : Nat) :
    Usable (suffixed label position) := by
  rw [← String.ofList_toList (s := label), usable_ofList_iff] at h
  obtain ⟨hne, htidy, hdigit⟩ := h
  have htext : Identifier.suffixed label position =
      String.ofList (label.toList ++ '_' :: digits position) := by
    apply String.toList_injective
    simp [Identifier.suffixed]
  rw [htext, usable_ofList_iff]
  refine ⟨by simp, htidy.append (tidy_digits position) hne (Number.digits_ne_nil position), ?_⟩
  -- it begins as the label does
  obtain ⟨c, cs, hcs⟩ := List.exists_cons_of_ne_nil hne
  rw [hcs] at hdigit ⊢
  exact hdigit

/-! ## Main statement -/

variable {values : List Scalar} {i : Nat} {v : Scalar}

/-- The label of a member, in full: its plain label or the longer one, and the plain one if no earlier member
    has it. -/
theorem exists_getElem?_labelsFor (hv : values[i]? = some v) :
    ∃ label, (labelsFor values)[i]? = some label ∧
      (label = labelFor v i ∨ label = suffixed (labelFor v i) i) ∧
      (labelFor v i ∉ (labelsFor values).take i → label = labelFor v i) := by
  rcases getElem?_labelsFor hv with ⟨-, hplain⟩ | ⟨htaken, hlonger⟩
  · exact ⟨_, hplain, Or.inl rfl, fun _ => rfl⟩
  · exact ⟨_, hlonger, Or.inr rfl, fun hfree => absurd htaken hfree⟩

theorem usable_of_mem_labelsFor {label : String} (h : label ∈ labelsFor values) : Usable label := by
  obtain ⟨i, hi⟩ := List.mem_iff_getElem?.mp h
  obtain ⟨v, hv⟩ := exists_of_getElem?_labelsFor hi
  obtain ⟨x, hx, hshape, -⟩ := exists_getElem?_labelsFor hv
  obtain rfl : label = x := Option.some.inj (hi.symm.trans hx)
  rcases hshape with rfl | rfl
  · exact usable_labelFor v i
  · exact (usable_labelFor v i).suffixed i

/-- **Labels are usable.** There is a label for each member and no other, and it can stand as an identifier.
    It is the plain label of the member or that with the position behind it; and it is the plain one where
    that is not among the labels before it. -/
theorem labels_usable (values : List Scalar) :
    (labelsFor values).length = values.length ∧
    (∀ label ∈ labelsFor values, Usable label) ∧
    ∀ (i : Nat) (v : Scalar), values[i]? = some v →
      ∃ label, (labelsFor values)[i]? = some label ∧
        (label = labelFor v i ∨ label = suffixed (labelFor v i) i) ∧
        (labelFor v i ∉ (labelsFor values).take i → label = labelFor v i) :=
  ⟨length_labelsFor values, fun _ => usable_of_mem_labelsFor, fun _ _ => exists_getElem?_labelsFor⟩

/-- A text that begins with a digit, null, and two texts with the same words. -/
def sizeValues : List Scalar := [.string "1024x768", .null, .string "a b", .string "a-b"]

/-- The last of them shares its plain label with the one before, so its position stands behind it. -/
theorem labels_usable_sizeValues :
    sizeValues[3]? = some (.string "a-b") ∧ labelFor (.string "a-b") 3 = "a_b" ∧
      (labelsFor sizeValues)[3]? = some "a_b_3" ∧ Usable "a_b_3" ∧
      ∃ label, (labelsFor sizeValues)[3]? = some label ∧
        (label = labelFor (.string "a-b") 3 ∨ label = suffixed (labelFor (.string "a-b") 3) 3) := by
  have hmember : sizeValues[3]? = some (.string "a-b") := rfl
  have hlabel : (labelsFor sizeValues)[3]? = some "a_b_3" := by decide
  obtain ⟨-, husable, hlabels⟩ := labels_usable sizeValues
  obtain ⟨label, hthird, hshape, -⟩ := hlabels 3 _ hmember
  exact ⟨hmember, by decide, hlabel, husable _ (List.mem_of_getElem? hlabel), label, hthird, hshape⟩

end PinTypes.Identifier
