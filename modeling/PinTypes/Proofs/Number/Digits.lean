import Mathlib.Algebra.Group.Nat.Defs
import Mathlib.Data.List.Induction
import PinTypes.Number.Integer

/-!
# `PinTypes.Proofs.Number.Digits` — digits are read back

A number is written by its digits, most significant first, and zeros may be put in front up to a width. Both
are digits throughout and stand for the number again; and as long as the number is not too great for the
width, what is written is just as wide.

An integer has many spellings, with zeros in front and with a plus sign. `Spells` has a rule for each sign, and
reading takes just these, as far as the number fits 64 bits (`readInt64_eq_some_iff`); that what is written is
read back comes down to its being one of them.

## Contents
- **Digits.** `isDigit_of_mem_digits`, `ofDigits_digits`, `digits_inj`,
  `length_digits_le_iff`, `ofDigits_lt`.
- **Zeros in front.** `isDigit_of_mem_padded`, `ofDigits_padded`, `length_padded`.
- **Signed numbers.** `mem_showInt`, `ofList_showInt`.
- **Spellings.** `Spells`, `readInt64_eq_some_iff`, `readInt64_showInt`.
-/

namespace PinTypes.Number

/-! ## Digits -/

theorem isDigit_of_mem_digits {n : Nat} {c : Char} (h : c ∈ digits n) : c.isDigit = true :=
  Nat.isDigit_of_mem_toDigits (by decide) (by decide) h

theorem digits_ne_nil (n : Nat) : digits n ≠ [] := Nat.toDigits_ne_nil

/-- Digits stand for the number that they are the digits of. -/
theorem ofDigits_digits (n : Nat) : ofDigits (digits n) = n := by
  show Nat.ofDigitChars 10 (Nat.toDigits 10 n) 0 = n
  exact Nat.ofDigitChars_ten_toDigits

/-- Digits tell the number. -/
theorem digits_inj {m n : Nat} (h : digits m = digits n) : m = n := by
  have hread : ofDigits (digits m) = ofDigits (digits n) := by rw [h]
  rwa [ofDigits_digits, ofDigits_digits] at hread

theorem length_digits_le_iff {n width : Nat} (hwidth : 0 < width) :
    (digits n).length ≤ width ↔ n < 10 ^ width :=
  Nat.length_toDigits_le_iff (by decide) hwidth

/-- A run of digits stands for a number that its length has room for. -/
theorem ofDigits_lt {ds : List Char} (hds : ∀ c ∈ ds, c.isDigit = true) : ofDigits ds < 10 ^ ds.length := by
  induction ds using List.reverseRecOn with
  | nil => exact Nat.one_pos
  | append_singleton ds c ih =>
    have hlt : ofDigits ds < 10 ^ ds.length := ih fun d hd => hds d (List.mem_append_left _ hd)
    have hc : 48 ≤ c.toNat ∧ c.toNat ≤ 57 := Char.isDigit_iff_toNat.mp (hds c List.mem_concat_self)
    have hvalue : digitValue c = c.toNat - 48 := rfl
    rw [ofDigits_append_singleton, List.length_append, List.length_singleton, Nat.pow_succ]
    omega

/-! ## Zeros in front -/

theorem isDigit_of_mem_padded {width n : Nat} {c : Char} (h : c ∈ padded width n) : c.isDigit = true := by
  rcases List.mem_append.mp h with hzero | hdigit
  · rw [List.eq_of_mem_replicate hzero]
    decide
  · exact isDigit_of_mem_digits hdigit

theorem padded_ne_nil (width n : Nat) : padded width n ≠ [] :=
  List.append_ne_nil_of_right_ne_nil _ (digits_ne_nil n)

theorem foldl_zeros (count : Nat) :
    (List.replicate count '0').foldl (fun n c => 10 * n + digitValue c) 0 = 0 := by
  induction count with
  | zero => rfl
  | succ count ih =>
    rw [List.replicate_succ, List.foldl_cons]
    exact ih

/-- Zeros in front do not change the number. -/
theorem ofDigits_padded (width n : Nat) : ofDigits (padded width n) = n := by
  rw [padded, ofDigits, List.foldl_append, foldl_zeros]
  exact ofDigits_digits n

/-- A number that is not too great for the width is written with just this width. -/
theorem length_padded {width n : Nat} (hwidth : 0 < width) (hn : n < 10 ^ width) :
    (padded width n).length = width := by
  have hlen : (digits n).length ≤ width := (length_digits_le_iff hwidth).mpr hn
  rw [padded, List.length_append, List.length_replicate]
  omega

/-! ## Signed numbers -/

theorem mem_showInt {n : Int} {c : Char} (h : c ∈ showInt n) : c.isDigit = true ∨ c = '-' := by
  unfold showInt at h
  split at h
  · rcases List.mem_cons.mp h with hsign | hdigit
    · exact Or.inr hsign
    · exact Or.inl (isDigit_of_mem_digits hdigit)
  · exact Or.inl (isDigit_of_mem_digits h)

/-- Numbers are written as the standard library writes them. -/
theorem ofList_showInt (n : Int) : String.ofList (showInt n) = toString n := by
  cases n with
  | ofNat m => rfl
  | negSucc m =>
    have hneg : showInt (Int.negSucc m) = '-' :: digits (m + 1) := if_pos (Int.negSucc_lt_zero m)
    have hrepr : toString (Int.negSucc m) = "-" ++ String.ofList (digits (m + 1)) := rfl
    apply String.toList_injective
    simp [hneg, hrepr]

/-! ## Spellings -/

/-- How an integer is spelled in decimal: as a run of digits, alone or behind a sign. -/
inductive Spells : List Char → Int → Prop where
  | unsigned {ds : List Char} (nonempty : ds ≠ []) (digits : ∀ c ∈ ds, c.isDigit = true) :
      Spells ds (ofDigits ds)
  | plus {ds : List Char} (nonempty : ds ≠ []) (digits : ∀ c ∈ ds, c.isDigit = true) :
      Spells ('+' :: ds) (ofDigits ds)
  | minus {ds : List Char} (nonempty : ds ≠ []) (digits : ∀ c ∈ ds, c.isDigit = true) :
      Spells ('-' :: ds) (-(ofDigits ds : Int))

/-- What is written for an integer spells it. -/
theorem spells_showInt (n : Int) : Spells (showInt n) n := by
  have hdigits : ∀ c ∈ digits n.natAbs, c.isDigit = true := fun _ => isDigit_of_mem_digits
  unfold showInt
  split
  · rename_i hneg
    have hvalue : -(n.natAbs : Int) = n := by omega
    have hspells := Spells.minus (digits_ne_nil n.natAbs) hdigits
    rwa [ofDigits_digits, hvalue] at hspells
  · rename_i hneg
    have hvalue : (n.natAbs : Int) = n := by omega
    have hspells := Spells.unsigned (digits_ne_nil n.natAbs) hdigits
    rwa [ofDigits_digits, hvalue] at hspells

/-- A run of digits has no sign in front. -/
theorem splitSign_of_isDigit {ds : List Char} (hds : ∀ c ∈ ds, c.isDigit = true) :
    splitSign ds = (false, ds) := by
  unfold splitSign
  split
  · exact absurd (hds '-' List.mem_cons_self) (by decide)
  · exact absurd (hds '+' List.mem_cons_self) (by decide)
  · rfl

theorem splitSign_cases (cs : List Char) :
    (∃ ds, cs = '-' :: ds ∧ splitSign cs = (true, ds)) ∨
    (∃ ds, cs = '+' :: ds ∧ splitSign cs = (false, ds)) ∨ splitSign cs = (false, cs) := by
  unfold splitSign
  split
  · exact Or.inl ⟨_, rfl, rfl⟩
  · exact Or.inr (Or.inl ⟨_, rfl, rfl⟩)
  · exact Or.inr (Or.inr rfl)

/-- A spelling is what leaves a run of digits when a sign is split off. -/
theorem spells_iff_splitSign {cs : List Char} {n : Int} :
    Spells cs n ↔
      ((splitSign cs).2 ≠ [] ∧ ∀ c ∈ (splitSign cs).2, c.isDigit = true) ∧
        signed (splitSign cs).1 (ofDigits (splitSign cs).2) = n := by
  constructor
  · intro h
    cases h with
    | unsigned nonempty digits =>
      rw [splitSign_of_isDigit digits]
      exact ⟨⟨nonempty, digits⟩, rfl⟩
    | plus nonempty digits => exact ⟨⟨nonempty, digits⟩, rfl⟩
    | minus nonempty digits => exact ⟨⟨nonempty, digits⟩, rfl⟩
  · rcases splitSign_cases cs with ⟨ds, rfl, -⟩ | ⟨ds, rfl, -⟩ | hsplit
    · rintro ⟨⟨nonempty, digits⟩, rfl⟩
      exact .minus nonempty digits
    · rintro ⟨⟨nonempty, digits⟩, rfl⟩
      exact .plus nonempty digits
    · rw [hsplit]
      rintro ⟨⟨nonempty, digits⟩, rfl⟩
      exact .unsigned nonempty digits

theorem toInt64?_eq_some_iff {n : Int} {i : Int64} : toInt64? n = some i ↔ n = i.toInt := by
  constructor
  · intro h
    exact (toInt_of_toInt64? h).symm
  · rintro rfl
    exact toInt64?_toInt i

/-- **What is read.** The spellings of a number of 64 bits are read as that number, and nothing else is. -/
theorem readInt64_eq_some_iff {cs : List Char} {i : Int64} :
    readInt64 cs = some i ↔ Spells cs i.toInt := by
  rw [spells_iff_splitSign, ← List.all_eq_true, ← toInt64?_eq_some_iff]
  simp only [readInt64, Option.ite_none_right_eq_some]

/-- **A number of 64 bits is read back,** the least one included. -/
theorem readInt64_showInt (i : Int64) : readInt64 (showInt i.toInt) = some i :=
  readInt64_eq_some_iff.mpr (spells_showInt i.toInt)

end PinTypes.Number
