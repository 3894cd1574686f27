import PinTypes.Proofs.Number.Digits
import PinTypes.Proofs.Pin.Choices
import Mathlib.Data.List.Nodup

/-!
# `PinTypes.Proofs.Enumeration.Labels` — when labels repeat

Labels are given from the front. A label that an earlier member has is taken, so its position is put
behind it. That is done once: whether the longer label is taken as well is not looked at. A member whose
own text ends in an underscore and a number can have it already, and then two members share a label.

This is the only way in which labels repeat. The position behind a label can be read back
(`suffixed_inj`), so no two labels that were made longer are equal, and a label that was left plain is none
of the earlier ones. Of two equal labels the first is therefore plain and the second is longer
(`labels_of_repeat`), and no third can be equal to them.

## Contents
- **A position behind a label.** `suffixed`, `suffixed_inj`.
- **The label at a position.** `getElem?_labelsFrom`, `getElem?_labelsFor`.
- **Repeated labels.** `labels_of_repeat`, `Clash`.
- **Main statement.** `labels_nodup_iff`, and `labels_not_nodup`, three members of which two share a label.
-/

namespace PinTypes.Identifier

open PinTypes.Number (digits digits_inj)

/-! ## A position behind a label -/

/-- The label with a position behind it. -/
def suffixed (label : String) (position : Nat) : String :=
  label ++ String.ofList ('_' :: digits position)

/-- From the end, the digits of a longer label go up to the first underscore. -/
theorem takeWhile_suffixed (label : String) (position : Nat) :
    (suffixed label position).toList.reverse.takeWhile (· != '_') = (digits position).reverse := by
  have hplain : ∀ c ∈ (digits position).reverse, (c != '_') = true := by
    intro c hc
    have hne : c ≠ '_' := fun h => Nat.underscore_not_in_toDigits (h ▸ List.mem_reverse.mp hc)
    simpa using hne
  have hshape : (suffixed label position).toList.reverse =
      (digits position).reverse ++ '_' :: label.toList.reverse := by
    simp [suffixed]
  rw [hshape, List.takeWhile_append_of_pos hplain]
  simp

/-- **A longer label tells its position.** -/
theorem suffixed_inj {label other : String} {i j : Nat}
    (h : suffixed label i = suffixed other j) : i = j := by
  have hdigits := takeWhile_suffixed label i
  rw [h, takeWhile_suffixed other j] at hdigits
  exact digits_inj (List.reverse_inj.mp hdigits.symm)

/-! ## The label at a position -/

/-- Whether a label is taken depends on which labels are there, not on their order. -/
theorem distinguished_congr {taken used : List String} (h : ∀ x, x ∈ taken ↔ x ∈ used)
    (label : String) (position : Nat) :
    distinguished taken label position = distinguished used label position := by
  simp only [distinguished, h]

theorem getElem?_labelsFrom {position i : Nat} {taken : List String} {values : List Scalar}
    {v : Scalar} (hv : values[i]? = some v) :
    (labelsFrom position taken values)[i]? =
      some (distinguished ((labelsFrom position taken values).take i ++ taken)
        (labelFor v (position + i)) (position + i)) := by
  induction values generalizing position taken i with
  | nil => simp at hv
  | cons w ws ih =>
    cases i with
    | zero =>
      obtain rfl := Option.some.inj hv
      rfl
    | succ i =>
      rw [labelsFrom, List.getElem?_cons_succ, ih hv, Nat.add_right_comm, Nat.add_assoc]
      congr 1
      -- the label just given has moved from the front of the labels to the labels that are taken
      apply distinguished_congr
      intro x
      simp only [List.take_succ_cons, List.cons_append, List.mem_cons, List.mem_append]
      tauto

variable {values : List Scalar} {i j : Nat} {v : Scalar} {x : String}

/-- The label of a member is plain if no earlier member has it, and longer otherwise. -/
theorem getElem?_labelsFor (hv : values[i]? = some v) :
    (labelFor v i ∉ (labelsFor values).take i ∧ (labelsFor values)[i]? = some (labelFor v i)) ∨
    (labelFor v i ∈ (labelsFor values).take i ∧
      (labelsFor values)[i]? = some (suffixed (labelFor v i) i)) := by
  have hlabel : (labelsFor values)[i]? = some (distinguished ((labelsFor values).take i ++ [])
      (labelFor v (0 + i)) (0 + i)) := getElem?_labelsFrom hv
  rw [List.append_nil, Nat.zero_add] at hlabel
  by_cases htaken : labelFor v i ∈ (labelsFor values).take i
  · exact Or.inr ⟨htaken, hlabel.trans (congrArg some (if_pos htaken))⟩
  · exact Or.inl ⟨htaken, hlabel.trans (congrArg some (if_neg htaken))⟩

/-- A label is the label of a member. -/
theorem exists_of_getElem?_labelsFor (hx : (labelsFor values)[i]? = some x) :
    ∃ v, values[i]? = some v := by
  have hi : i < (labelsFor values).length := (List.getElem?_eq_some_iff.mp hx).1
  rw [length_labelsFor] at hi
  exact ⟨values[i], List.getElem?_eq_getElem hi⟩

/-- An earlier label is among those that are taken. -/
theorem mem_take_of_getElem? {labels : List String} (hij : i < j) (hx : labels[i]? = some x) :
    x ∈ labels.take j := by
  apply List.mem_of_getElem? (i := i)
  rw [List.getElem?_take_of_lt hij]
  exact hx

/-! ## Repeated labels -/

/-- **Of two equal labels the first is plain and the second longer.** -/
theorem labels_of_repeat (hij : i < j) (hi : (labelsFor values)[i]? = some x)
    (hj : (labelsFor values)[j]? = some x) :
    ∃ v w, values[i]? = some v ∧ values[j]? = some w ∧
      (labelFor v i ∉ (labelsFor values).take i ∧ labelFor v i = x) ∧
      (labelFor w j ∈ (labelsFor values).take j ∧ suffixed (labelFor w j) j = x) := by
  obtain ⟨v, hv⟩ := exists_of_getElem?_labelsFor hi
  obtain ⟨w, hw⟩ := exists_of_getElem?_labelsFor hj
  refine ⟨v, w, hv, hw, ?_⟩
  have hmem : x ∈ (labelsFor values).take j := mem_take_of_getElem? hij hi
  rcases getElem?_labelsFor hw with ⟨hfree, hplain⟩ | ⟨htaken, hlonger⟩
  · -- a plain label is none of the earlier ones
    rw [hj] at hplain
    rw [Option.some.inj hplain] at hmem
    exact absurd hmem hfree
  · rw [hj] at hlonger
    have hsuffixed : suffixed (labelFor w j) j = x := (Option.some.inj hlonger).symm
    rcases getElem?_labelsFor hv with ⟨hfree', hplain'⟩ | ⟨-, hlonger'⟩
    · rw [hi] at hplain'
      exact ⟨⟨hfree', (Option.some.inj hplain').symm⟩, htaken, hsuffixed⟩
    · -- two longer labels tell two positions
      rw [hi] at hlonger'
      have hsame : i = j := suffixed_inj ((Option.some.inj hlonger').symm.trans hsuffixed.symm)
      omega

/-- The label of the member at `j` is taken, and with its position behind it, it is the plain label of an
    earlier member at `i`. -/
def Clash (values : List Scalar) (i j : Nat) : Prop :=
  ∃ v w, i < j ∧ values[i]? = some v ∧ values[j]? = some w ∧
    labelFor w j ∈ (labelsFor values).take j ∧ labelFor v i = suffixed (labelFor w j) j

/-- Where labels clash, one repeats: that of the later member, and if not at the earlier one then before. -/
theorem Clash.not_nodup (h : Clash values i j) : ¬ (labelsFor values).Nodup := by
  obtain ⟨v, w, hij, hv, hw, htaken, hsame⟩ := h
  have hj : (labelsFor values)[j]? = some (suffixed (labelFor w j) j) := by
    rcases getElem?_labelsFor hw with ⟨hfree, -⟩ | ⟨-, hlonger⟩
    · exact absurd htaken hfree
    · exact hlonger
  obtain ⟨k, hkj, hk⟩ : ∃ k < j, (labelsFor values)[k]? = some (suffixed (labelFor w j) j) := by
    rcases getElem?_labelsFor hv with ⟨-, hplain⟩ | ⟨hearlier, -⟩
    · exact ⟨i, hij, hplain.trans (congrArg some hsame)⟩
    · obtain ⟨k, hk⟩ := List.mem_iff_getElem?.mp hearlier
      have hki : k < i := by
        have hlt := (List.getElem?_eq_some_iff.mp hk).1
        rw [List.length_take] at hlt
        omega
      rw [List.getElem?_take_of_lt hki, hsame] at hk
      exact ⟨k, Nat.lt_trans hki hij, hk⟩
  rw [List.nodup_iff_getElem?_ne_getElem?]
  intro hnodup
  have hlen : j < (labelsFor values).length := (List.getElem?_eq_some_iff.mp hj).1
  exact hnodup k j hkj hlen (hk.trans hj.symm)

theorem nodup_of_not_clash (h : ∀ i j, ¬ Clash values i j) : (labelsFor values).Nodup := by
  rw [List.nodup_iff_getElem?_ne_getElem?]
  intro i j hij hlen hsame
  have hj : (labelsFor values)[j]? = some (labelsFor values)[j] := List.getElem?_eq_getElem hlen
  obtain ⟨v, w, hv, hw, ⟨-, hplain⟩, htaken, hlonger⟩ := labels_of_repeat hij (hsame.trans hj) hj
  exact h i j ⟨v, w, hij, hv, hw, htaken, hplain.trans hlonger.symm⟩

/-! ## Main statement -/

/-- The choices of a type are labelled as its members are. -/
theorem map_label_choicesOf (t : EnumType) :
    (Pin.choicesOf t).map (·.label) = Pin.choiceLabels t := by
  have hlen : (Pin.choiceLabels t).length ≤ t.variants.length :=
    Nat.le_of_eq (Pin.length_choiceLabels t)
  calc (Pin.choicesOf t).map (·.label)
      = ((t.variants.zip (Pin.choiceLabels t)).zipIdx.map Prod.fst).map Prod.snd := by
        rw [Pin.choicesOf, List.map_map, List.map_map]
        rfl
    _ = (t.variants.zip (Pin.choiceLabels t)).map Prod.snd := by rw [List.zipIdx_map_fst]
    _ = Pin.choiceLabels t := List.map_snd_zip hlen

/-- **When labels are pairwise different.** They are exactly if no label that is taken becomes, with its
    position behind it, the plain label of an earlier member; and no label stands at more than two positions.
    These are the labels of the members of every type that is made from the values, minted or catalogued, and
    of the choices that a pin offers for a minted one. -/
theorem labels_nodup_iff (values : List Scalar) (name : String) (stamp : Stamp) :
    let minted := EnumType.minted ⟨stamp, .make name values⟩
    let catalogued := EnumType.catalogued ⟨stamp, .ofValues name values⟩
    ((labelsFor values).Nodup ↔ ∀ i j, ¬ Clash values i j) ∧
    (∀ (i j k : Nat) (x : String), i < j → j < k →
      (labelsFor values)[i]? = some x → (labelsFor values)[j]? = some x →
      (labelsFor values)[k]? ≠ some x) ∧
    (minted.labels = labelsFor values ∧ (Pin.choicesOf minted).map (·.label) = labelsFor values ∧
      catalogued.labels = labelsFor values) := by
  intro minted catalogued
  refine ⟨⟨?_, nodup_of_not_clash⟩, ?_, rfl, map_label_choicesOf minted,
    CataloguedEnum.labels_ofValues name values⟩
  · intro hnodup i j hclash
    exact hclash.not_nodup hnodup
  · intro i j k x hij hjk hi hj hk
    -- the label in the middle would be longer than its plain form, and plain
    obtain ⟨-, w, -, hw, -, htaken, -⟩ := labels_of_repeat hij hi hj
    obtain ⟨w', -, hw', -, ⟨hfree, -⟩, -⟩ := labels_of_repeat hjk hj hk
    rw [hw] at hw'
    obtain rfl := Option.some.inj hw'
    exact hfree htaken

/-- Two members of three share a label. -/
theorem labels_not_nodup :
    labelsFor [.string "a_2", .string "a", .string "a"] = ["a_2", "a", "a_2"] ∧
      ¬ (labelsFor [.string "a_2", .string "a", .string "a"]).Nodup := by
  have hlabels : labelsFor [.string "a_2", .string "a", .string "a"] = ["a_2", "a", "a_2"] := by decide
  refine ⟨hlabels, ?_⟩
  rw [hlabels]
  decide

end PinTypes.Identifier
