import PinTypes.Text.Blank
import PinTypes.Text.Lowercase
import Mathlib.Data.List.DropRight

/-!
# `PinTypes.Proofs.Text.Blank` — what trimming leaves alone

Trimming drops a prefix and then a suffix. Dropping the suffix cannot bring a blank to the front, because
what is left is a prefix of a text that starts with none; so a trimmed text has nothing to trim.

## Contents
- **One end.** `trimStart_trimEnd_of_trimStart`.
- **The end.** `exists_behind_trimEnd`, `not_isBlank_of_getLast?_trimEnd`.
- **Both ends.** `trim_trim`, `trimmed_trimmed`; `trimmed_eq_empty_iff` for texts of blanks alone;
  `trim_padded` for blanks that are put around a text.
- **Small letters.** `smallAscii_eq_toLower`, `trim_lowerAscii`.
-/

namespace PinTypes.Text

theorem not_isBlank_of_isDigit {c : Char} (h : c.isDigit = true) : isBlank c = false := by
  have hc : 48 ≤ c.toNat ∧ c.toNat ≤ 57 := Char.isDigit_iff_toNat.mp h
  simp [isBlank]
  omega

/-! ## One end -/

theorem trimEnd_eq_rdropWhile (cs : List Char) : trimEnd cs = cs.rdropWhile isBlank := rfl

theorem trimStart_eq_self_iff {cs : List Char} :
    trimStart cs = cs ↔ ∀ c, cs.head? = some c → isBlank c = false := by
  cases cs with
  | nil => simp
  | cons c cs => simp [trimStart, List.dropWhile_eq_self_iff]

/-- Cutting off the end leaves a text that starts with no blank as it is at its start. -/
theorem trimStart_trimEnd_of_trimStart {cs : List Char} (h : trimStart cs = cs) :
    trimStart (trimEnd cs) = trimEnd cs := by
  rw [trimStart_eq_self_iff] at h ⊢
  intro c hc
  obtain ⟨rest, hrest⟩ : trimEnd cs <+: cs := by
    rw [trimEnd_eq_rdropWhile]
    exact List.rdropWhile_prefix isBlank cs
  apply h c
  rw [← hrest, List.head?_append, hc]
  rfl

theorem trimStart_trimStart (cs : List Char) : trimStart (trimStart cs) = trimStart cs :=
  List.dropWhile_idempotent _ _

/-! ## Both ends -/

theorem trim_trim (cs : List Char) : trim (trim cs) = trim cs := by
  have hend : trimEnd (trimEnd (trimStart cs)) = trimEnd (trimStart cs) := by
    rw [trimEnd_eq_rdropWhile, trimEnd_eq_rdropWhile]
    exact List.rdropWhile_idempotent _ _
  calc trim (trim cs)
      = trimEnd (trimStart (trimEnd (trimStart cs))) := rfl
    _ = trimEnd (trimEnd (trimStart cs)) := by rw [trimStart_trimEnd_of_trimStart (trimStart_trimStart cs)]
    _ = trimEnd (trimStart cs) := hend

theorem mem_of_mem_trim {c : Char} {cs : List Char} (h : c ∈ trim cs) : c ∈ cs := by
  rw [trim, trimEnd_eq_rdropWhile] at h
  exact (List.dropWhile_sublist isBlank).subset ((List.rdropWhile_prefix isBlank _).subset h)

/-- **A trimmed text has nothing to trim.** -/
@[simp] theorem trimmed_trimmed (s : String) : trimmed (trimmed s) = trimmed s := by
  apply String.toList_injective
  rw [toList_trimmed, toList_trimmed, trim_trim]

/-- Trimming leaves nothing of a text exactly if there is nothing but blanks in it. -/
theorem trim_eq_nil_iff {cs : List Char} : trim cs = [] ↔ ∀ c ∈ cs, isBlank c = true := by
  have hend : trim cs = [] ↔ ∀ c ∈ trimStart cs, isBlank c = true := by
    rw [trim, trimEnd_eq_rdropWhile]
    exact List.rdropWhile_eq_nil_iff
  have hstart : trimStart cs = [] ↔ ∀ c ∈ cs, isBlank c = true := List.dropWhile_eq_nil_iff
  rw [hend, ← hstart]
  constructor
  · intro hblank
    -- what is left at the start begins with no blank, so it cannot be blanks alone
    have hagain : trimStart (trimStart cs) = [] := List.dropWhile_eq_nil_iff.mpr hblank
    rwa [trimStart_trimStart] at hagain
  · intro hnil
    simp [hnil]

theorem trim_eq_self {cs : List Char} (h : ∀ c ∈ cs, isBlank c = false) : trim cs = cs := by
  have hstart : trimStart cs = cs := trimStart_eq_self_iff.mpr fun c hc => h c (List.mem_of_head? hc)
  rw [trim, hstart, trimEnd_eq_rdropWhile, List.rdropWhile_eq_self_iff]
  intro hne
  rw [h _ (List.getLast_mem hne)]
  exact Bool.false_ne_true

theorem trimmed_eq_empty_iff {s : String} : trimmed s = "" ↔ isBlankText s = true := by
  rw [← String.toList_inj, toList_trimmed, String.toList_empty, trim_eq_nil_iff, isBlankText,
    List.all_eq_true]

/-- What is cut off at the end are blanks. -/
theorem exists_behind_trimEnd (cs : List Char) :
    ∃ blanks, cs = trimEnd cs ++ blanks ∧ ∀ c ∈ blanks, isBlank c = true := by
  refine ⟨(cs.reverse.takeWhile isBlank).reverse, ?_, ?_⟩
  · rw [trimEnd, ← List.reverse_append, List.takeWhile_append_dropWhile, List.reverse_reverse]
  · intro c hc
    exact List.mem_takeWhile_imp (List.mem_reverse.mp hc)

/-- What is left ends with no blank. -/
theorem not_isBlank_of_getLast?_trimEnd {c : Char} {cs : List Char} (h : (trimEnd cs).getLast? = some c) :
    isBlank c = false := by
  obtain ⟨hne, hlast⟩ := List.mem_getLast?_eq_getLast h
  rw [hlast, ← Bool.not_eq_true]
  exact List.rdropWhile_last_not isBlank cs hne

theorem trimEnd_append_of_blank {after : List Char} (h : ∀ c ∈ after, isBlank c = true)
    (cs : List Char) : trimEnd (cs ++ after) = trimEnd cs := by
  have hback : ∀ c ∈ after.reverse, isBlank c = true := fun c hc => h c (List.mem_reverse.mp hc)
  rw [trimEnd, trimEnd, List.reverse_append, List.dropWhile_append_of_pos hback]

theorem trimEnd_concat {c : Char} (hc : isBlank c = false) (cs : List Char) :
    trimEnd (cs ++ [c]) = cs ++ [c] := by
  have hkept : ¬ isBlank c = true := by rw [hc]; exact Bool.false_ne_true
  rw [trimEnd, List.reverse_concat, List.dropWhile_cons_of_neg hkept, ← List.reverse_concat,
    List.reverse_reverse]

/-- **Blanks around a text are trimmed off** with those that it has itself. -/
theorem trim_padded {before after : List Char} (hbefore : ∀ c ∈ before, isBlank c = true)
    (hafter : ∀ c ∈ after, isBlank c = true) (cs : List Char) :
    trim (before ++ (cs ++ after)) = trim cs := by
  have hfront : trimStart (before ++ (cs ++ after)) = trimStart (cs ++ after) :=
    List.dropWhile_append_of_pos hbefore
  rw [trim, hfront, trim]
  by_cases hblank : trimStart cs = []
  · -- nothing but blanks: they go at the start, and so do those that follow
    have hall : trimStart (cs ++ after) = [] := by
      rw [trimStart, List.dropWhile_append_of_pos (List.dropWhile_eq_nil_iff.mp hblank)]
      exact List.dropWhile_eq_nil_iff.mpr hafter
    rw [hall, hblank]
  · have hkept : trimStart (cs ++ after) = trimStart cs ++ after := by
      rw [trimStart, List.dropWhile_append]
      exact if_neg fun h => hblank (List.isEmpty_iff.mp h)
    rw [hkept, trimEnd_append_of_blank hafter]

/-- Trimming looks at no more of a character than whether it is blank. -/
theorem trim_map {f : Char → Char} (h : ∀ c, isBlank (f c) = isBlank c) (cs : List Char) :
    trim (cs.map f) = (trim cs).map f := by
  have hsame : isBlank ∘ f = isBlank := funext h
  rw [trim, trim, trimStart, trimStart, trimEnd, trimEnd, List.dropWhile_map, hsame, ← List.map_reverse,
    List.dropWhile_map, hsame, List.map_reverse]

/-! ## Small letters -/

theorem isCapitalAscii_iff (c : Char) : ('A' ≤ c && c ≤ 'Z') = true ↔ 65 ≤ c.toNat ∧ c.toNat ≤ 90 := by
  rw [Bool.and_eq_true, decide_eq_true_iff, decide_eq_true_iff]
  exact Iff.rfl

/-- The code point of a small letter, taken from that of the capital. -/
theorem toNat_smallAscii {c : Char} (h : 65 ≤ c.toNat ∧ c.toNat ≤ 90) :
    (smallAscii c).toNat = c.toNat + 32 := by
  have hvalid : (c.toNat + 32).isValidChar := Or.inl (by omega)
  rw [smallAscii, if_pos ((isCapitalAscii_iff c).mpr h), Char.ofNat, dif_pos hvalid]
  rfl

theorem smallAscii_of_not {c : Char} (h : ¬ (65 ≤ c.toNat ∧ c.toNat ≤ 90)) : smallAscii c = c := by
  rw [smallAscii, if_neg fun hc => h ((isCapitalAscii_iff c).mp hc)]

/-- A letter is made small as the standard library makes it small. -/
theorem smallAscii_eq_toLower (c : Char) : smallAscii c = c.toLower := by
  by_cases h : 65 ≤ c.toNat ∧ c.toNat ≤ 90
  · -- both are the character 32 code points further on
    apply Char.toNat_inj.mp
    have hlower : c.toLower.val = c.val + ('a'.val - 'A'.val) := by
      unfold Char.toLower
      exact congrArg Char.val (dif_pos h)
    have hshift : ('a'.val - 'A'.val).toNat = 32 := by decide
    rw [toNat_smallAscii h, ← Char.toNat_val (c := c.toLower), hlower, UInt32.toNat_add, hshift,
      Char.toNat_val]
    omega
  · rw [smallAscii_of_not h]
    have hcapital : ¬ (c.val ≥ 'A'.val ∧ c.val ≤ 'Z'.val) := h
    unfold Char.toLower
    rw [dif_neg hcapital]

theorem isBlank_smallAscii (c : Char) : isBlank (smallAscii c) = isBlank c := by
  by_cases h : 65 ≤ c.toNat ∧ c.toNat ≤ 90
  · -- neither the capital nor the small letter is blank
    have hsmall := toNat_smallAscii h
    have hneither : isBlank c = false ∧ isBlank (smallAscii c) = false := by
      simp [isBlank, hsmall]
      omega
    rw [hneither.1, hneither.2]
  · rw [smallAscii_of_not h]

/-- It does not matter whether a text is trimmed first or its letters are made small first. -/
theorem trim_lowerAscii (cs : List Char) : trim (lowerAscii cs) = lowerAscii (trim cs) :=
  trim_map isBlank_smallAscii cs

end PinTypes.Text
