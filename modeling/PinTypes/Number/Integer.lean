import PinTypes.Number.Power

/-!
# `PinTypes.Number.Integer` — whole numbers in decimal

## Contents
- **Digits.** `digits` writes a natural number, `ofDigits` reads one back; `padded` adds leading zeros.
- **Signed numbers.** `showInt`, and `readInt64`, which takes an optional sign and refuses anything out of
  the range of 64 bits.
-/

namespace PinTypes.Number

/-! ## Digits -/

/-- The decimal digits of a natural number, most significant first; `0` for zero. -/
def digits (n : Nat) : List Char := Nat.toDigits 10 n

/-- The number that a digit stands for. -/
def digitValue (c : Char) : Nat := c.toNat - '0'.toNat

/-- The number that a run of digits stands for, most significant first. -/
def ofDigits (cs : List Char) : Nat :=
  cs.foldl (fun n c => 10 * n + digitValue c) 0

/-- The digits of a number, with zeros in front up to the given width. -/
def padded (width n : Nat) : List Char :=
  let ds := digits n
  List.replicate (width - ds.length) '0' ++ ds

@[simp] theorem ofDigits_nil : ofDigits [] = 0 := rfl

theorem ofDigits_append_singleton (cs : List Char) (c : Char) :
    ofDigits (cs ++ [c]) = 10 * ofDigits cs + digitValue c := by
  simp [ofDigits]

/-! ## Signed numbers -/

/-- A number in decimal, with a minus sign if it is negative. -/
def showInt (n : Int) : List Char :=
  if n < 0 then '-' :: digits n.natAbs else digits n.natAbs

/-- A sign, if there is one, and the rest. The flag says whether the sign is a minus. -/
def splitSign : List Char → Bool × List Char
  | '-' :: cs => (true, cs)
  | '+' :: cs => (false, cs)
  | cs => (false, cs)

/-- The number with the given sign and magnitude. -/
def signed (negative : Bool) (n : Nat) : Int := if negative then -(n : Int) else n

/-- Whether a number fits into 64 signed bits. -/
def FitsInt64 (n : Int) : Prop := -int64Limit ≤ n ∧ n < int64Limit

instance (n : Int) : Decidable (FitsInt64 n) := inferInstanceAs (Decidable (_ ∧ _))

/-- The number as 64 signed bits, if it fits. -/
def toInt64? (n : Int) : Option Int64 := if FitsInt64 n then some (Int64.ofInt n) else none

/-- Reads an optional sign and at least one digit, with nothing around them. -/
def readInt64 (cs : List Char) : Option Int64 :=
  let (negative, ds) := splitSign cs
  if ds ≠ [] ∧ ds.all Char.isDigit then toInt64? (signed negative (ofDigits ds)) else none

theorem toInt_of_toInt64? {n : Int} {i : Int64} (h : toInt64? n = some i) : i.toInt = n := by
  unfold toInt64? at h
  split at h
  case isTrue hn =>
    obtain rfl := Option.some.inj h
    exact Int64.toInt_ofInt_of_le hn.1 hn.2
  case isFalse => cases h

theorem toInt64?_toInt (i : Int64) : toInt64? i.toInt = some i := by
  have h : FitsInt64 i.toInt := ⟨Int64.le_toInt i, Int64.toInt_lt i⟩
  simp [toInt64?, h]

end PinTypes.Number
