import PinTypes.Number.Double

/-!
# `PinTypes.Number.Shortest` — the fewest digits that read back

The decimal text of a double carries the fewest significant digits that still single it out: of the
decimals with `1, 2, …, 17` digits the first grid with a point in the rounding interval wins. On one grid
only the two neighbours of the value need a look, and the nearer of two hits is taken. What becomes of an
exact tie between them is the caller's choice.

## Contents
- **The interval.** `Interval`, `Interval.around`: the numbers that round to a double; its ends belong to it
  exactly when the significand is even.
- **Grids.** `decimalExponent`, `Tie`, `pick`.
- **The result.** `Decimal`, `shortest`.
-/

namespace PinTypes.Number

/-- Numbers between `low / den` and `high / den`, with the value that they round to. -/
structure Interval where
  low : Nat
  value : Nat
  high : Nat
  den : Nat
  closed : Bool
deriving DecidableEq, Repr

/-- The numbers that round to `m · 2 ^ q`, in quarters of its last place. Below a power of two the
    doubles lie twice as close. -/
def Interval.around (m : Nat) (q : Int) : Interval :=
  let unit := twoTo (q - 2).toNat
  let below := if m = bits52 ∧ q ≠ -1074 then 1 else 2
  { low := (4 * m - below) * unit
    value := 4 * m * unit
    high := (4 * m + 2) * unit
    den := twoTo (2 - q).toNat
    closed := m % 2 == 0 }

/-- The greatest `e` with `10 ^ e ≤ num / den`, for a positive fraction. -/
def decimalExponent (num den : Nat) : Int :=
  let guess := ((num.log2 : Int) - den.log2) * 30103 / 100000
  let reaches (e : Int) : Bool := den * tenTo e.toNat ≤ num * tenTo (-e).toNat
  if reaches (guess + 1) then guess + 1 else if reaches guess then guess else guess - 1

/-- Which of two equally near decimals is written. -/
inductive Tie where
  | even
  | away
deriving DecidableEq, Repr

/-- The decimal `coefficient · 10 ^ exponent`. -/
structure Decimal where
  coefficient : Nat
  exponent : Int
deriving DecidableEq, Repr

/-- Whether `k · 10 ^ e` lies in the interval. -/
def Interval.contains (i : Interval) (k : Nat) (e : Int) : Bool :=
  let point := k * tenTo e.toNat * i.den
  let scale := tenTo (-e).toNat
  if i.closed then i.low * scale ≤ point && point ≤ i.high * scale
  else i.low * scale < point && point < i.high * scale

/-- The multiple of `10 ^ e` in the interval that is nearest to its value, if there is one. -/
def Interval.pick (i : Interval) (tie : Tie) (e : Int) : Option Decimal :=
  let num := i.value * tenTo (-e).toNat
  let den := i.den * tenTo e.toNat
  let k := num / den
  let rest := num % den
  let up := den < 2 * rest || (2 * rest == den && (tie = .away || k % 2 == 1))
  match i.contains k e, i.contains (k + 1) e with
  | true, true => some ⟨if up then k + 1 else k, e⟩
  | true, false => some ⟨k, e⟩
  | false, true => some ⟨k + 1, e⟩
  | false, false => none

/-- The first hit on the grids with `count`, `count + 1`, … digits. -/
def Interval.search (i : Interval) (tie : Tie) (top : Int) (count : Nat) : Nat → Decimal
  | 0 => ⟨i.value / i.den, 0⟩
  | fuel + 1 =>
    match i.pick tie (top - count + 1) with
    | some d => d
    | none => i.search tie top (count + 1) fuel

/-- The decimal without zeros at the end of its coefficient. -/
def Decimal.reduced (d : Decimal) : Nat → Decimal
  | 0 => d
  | fuel + 1 =>
    if d.coefficient ≠ 0 ∧ d.coefficient % 10 = 0 then
      Decimal.reduced ⟨d.coefficient / 10, d.exponent + 1⟩ fuel
    else d

/-- The shortest decimal that reads back as the absolute value of a double other than zero. Seventeen
    digits always do. -/
def shortest (tie : Tie) (x : Double.Finite) : Decimal :=
  let i := Interval.around x.significand x.exponent
  (i.search tie (decimalExponent i.value i.den) 1 17).reduced 18

end PinTypes.Number
