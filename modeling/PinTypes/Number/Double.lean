import PinTypes.Number.Rounding

/-!
# `PinTypes.Number.Double` — numbers of double precision

A double is not-a-number, an infinity, or a finite value `± m · 2 ^ q` in its one canonical form: the
significand has full width unless the exponent is the least one. Zero keeps its sign. Two doubles are
equal as data exactly when they are the same value, so equality needs no special cases.

## Contents
- **The type.** `Double.Canonical`, `Double.Finite`, `Double`.
- **Making doubles.** `zero`, `ofRatio`, `ofDecimal`, `ofInt`.
- **Whole parts.** `Finite.magnitude`, `Finite.truncate`, `Finite.integer?`.
- **Narrowing.** `nearestSingle`.
-/

namespace PinTypes

/-- Significand and exponent in the one form that each finite double has. -/
def Double.Canonical (m : Nat) (q : Int) : Prop :=
  m < Number.bits53 ∧ -1074 ≤ q ∧ q ≤ 971 ∧ (Number.bits52 ≤ m ∨ q = -1074)

instance (m : Nat) (q : Int) : Decidable (Double.Canonical m q) :=
  inferInstanceAs (Decidable (_ ∧ _))

/-- A finite double, `± significand · 2 ^ exponent`. -/
structure Double.Finite where
  negative : Bool
  significand : Nat
  exponent : Int
  canonical : Double.Canonical significand exponent
deriving DecidableEq

/-- A number of double precision. -/
inductive Double where
  | nan
  | infinity (negative : Bool)
  | finite (x : Double.Finite)
deriving DecidableEq

namespace Double

/-! ## Making doubles -/

/-- Zero with a sign. -/
def Finite.zero (negative : Bool) : Finite :=
  ⟨negative, 0, -1074, by decide⟩

/-- Zero with a sign. -/
def zero (negative : Bool) : Double := .finite (Finite.zero negative)

/-- The double nearest to a fraction, ties to even; an infinity beyond the greatest finite double. -/
def ofRatio (negative : Bool) (num den : Nat) : Double :=
  if num = 0 then zero negative
  else
    let (m, q) := Number.binary64.round num den
    if h : Canonical m q then .finite ⟨negative, m, q, h⟩ else .infinity negative

/-- The double nearest to `coefficient · 10 ^ exponent`. The scale is settled first, so that a far-off
    exponent costs nothing: from `10 ^ 400` on all is infinite, and below `10 ^ -400` all is zero. -/
def ofDecimal (negative : Bool) (coefficient : Nat) (exponent : Int) : Double :=
  if coefficient = 0 then zero negative
  else
    let scale := (Nat.toDigits 10 coefficient).length + exponent
    if 400 < scale then .infinity negative
    else if scale < -400 then zero negative
    else ofRatio negative (coefficient * Number.tenTo exponent.toNat)
      (Number.tenTo (-exponent).toNat)

/-- The double nearest to a whole number. -/
def ofInt (n : Int) : Double := ofRatio (n < 0) n.natAbs 1

/-! ## Whole parts -/

/-- The absolute value as a fraction. -/
def Finite.magnitude (x : Finite) : Nat × Nat :=
  (x.significand * Number.twoTo x.exponent.toNat, Number.twoTo (-x.exponent).toNat)

/-- The whole part: the fraction is cut off toward zero. -/
def Finite.truncate (x : Finite) : Int :=
  let (num, den) := x.magnitude
  if x.negative then -(num / den : Nat) else (num / den : Nat)

/-- Whether nothing stands behind the point. -/
def Finite.isIntegral (x : Finite) : Bool :=
  let (num, den) := x.magnitude
  num % den == 0

/-- The whole number that the double is, if it is one. -/
def Finite.integer? (x : Finite) : Option Int :=
  if x.isIntegral then some x.truncate else none

/-- Whether the double is neither infinite nor not-a-number. -/
def isFinite : Double → Bool
  | .finite _ => true
  | _ => false

/-! ## Narrowing -/

/-- The nearest number of single precision, as a double. -/
def nearestSingle : Double → Double
  | .finite x =>
    let (num, den) := x.magnitude
    if num = 0 then .finite x
    else
      let (m, q) := Number.binary32.round num den
      if q ≤ 104 then ofRatio x.negative (m * Number.twoTo q.toNat) (Number.twoTo (-q).toNat)
      else .infinity x.negative
  | x => x

@[simp] theorem isFinite_finite (x : Finite) : isFinite (.finite x) = true := rfl

end Double

end PinTypes
