import PinTypes.Number.Power

/-!
# `PinTypes.Number.Rounding` — rounding a fraction to a binary significand

A fraction of natural numbers is rounded to `m · 2 ^ q`, where `m` has at most as many bits as the format
has precision and `q` is not below the least exponent of the format. Of two equally near significands the
even one is taken. No bound from above is checked here.

## Contents
- **Quotients.** `nearestEven`, with the bound `nearestEven_le`.
- **Formats.** `Format`, `binary64`, `binary32`.
- **Rounding.** `scaleDown`, `Format.exponentFor`, `Format.round`.
-/

namespace PinTypes.Number

/-- The whole number nearest to `num / den`; of two equally near ones the even one. -/
def nearestEven (num den : Nat) : Nat :=
  let quotient := num / den
  let rest := num % den
  if 2 * rest < den ∨ (2 * rest = den ∧ quotient % 2 = 0) then quotient else quotient + 1

theorem nearestEven_le (num den : Nat) : nearestEven num den ≤ num / den + 1 := by
  unfold nearestEven
  simp only
  split <;> omega

/-- A whole quotient is its own rounding. -/
theorem nearestEven_mul (n : Nat) {den : Nat} (h : 0 < den) : nearestEven (n * den) den = n := by
  simp [nearestEven, h]

/-- Bits of a significand and the least exponent of a binary format. -/
structure Format where
  precision : Nat
  leastExponent : Int
deriving DecidableEq, Repr

/-- Double precision. -/
def binary64 : Format := ⟨53, -1074⟩

/-- Single precision. -/
def binary32 : Format := ⟨24, -149⟩

/-- The fraction `num / den / 2 ^ q`. -/
def scaleDown (num den : Nat) (q : Int) : Nat × Nat :=
  (num * twoTo (-q).toNat, den * twoTo q.toNat)

/-- The exponent under which a positive fraction has a significand of full precision, or the least one
    if that is greater. -/
def Format.exponentFor (f : Format) (num den : Nat) : Int :=
  let first := max f.leastExponent ((num.log2 : Int) - den.log2 - f.precision)
  let (n, d) := scaleDown num den first
  if n / d < twoTo f.precision then first else first + 1

/-- The significand and exponent nearest to a positive fraction. -/
def Format.round (f : Format) (num den : Nat) : Nat × Int :=
  let q := f.exponentFor num den
  let (n, d) := scaleDown num den q
  let m := nearestEven n d
  if m = twoTo f.precision then (twoTo (f.precision - 1), q + 1) else (m, q)

end PinTypes.Number
