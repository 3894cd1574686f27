import PinTypes.Number.Integer
import PinTypes.Number.Shortest

/-!
# `PinTypes.Number.Layout` — doubles as text

From digits to text: where the point stands, when an exponent is written instead, and whether a whole
number shows that it is a double. These decisions are one value of type `Layout`; each writer of numbers
states its own.

## Contents
- **Decisions.** `Layout`.
- **Text.** `positional`, `scientific`, `Layout.magnitude`, `Layout.text`.
-/

namespace PinTypes.Number

/-- How a finite double is written. -/
structure Layout where
  /-- Decimal exponents from `fst` on and below `snd` are written without an exponent; `none` if all are. -/
  positionalRange : Option (Int × Int)
  /-- Whether a whole number written without an exponent ends in `.0`. -/
  showsPoint : Bool
  /-- Which of two equally near shortest decimals is written. -/
  tie : Tie

/-- Digits with the point in its place: `ds` times `10 ^ e`. -/
def positional (showsPoint : Bool) (ds : List Char) (e : Int) : List Char :=
  if 0 ≤ e then
    ds ++ List.replicate e.toNat '0' ++ (if showsPoint then ['.', '0'] else [])
  else
    let behind := (-e).toNat
    if behind < ds.length then
      ds.take (ds.length - behind) ++ '.' :: ds.drop (ds.length - behind)
    else '0' :: '.' :: List.replicate (behind - ds.length) '0' ++ ds

/-- One digit, the others behind a point, and the exponent with its sign. -/
def scientific (ds : List Char) (e : Int) : List Char :=
  let mantissa := match ds with
    | d :: [] => [d]
    | d :: rest => d :: '.' :: rest
    | [] => []
  mantissa ++ 'e' :: (if e < 0 then '-' else '+') :: digits e.natAbs

/-- The text of an absolute value other than zero. -/
def Layout.magnitude (layout : Layout) (x : Double.Finite) : List Char :=
  let d := shortest layout.tie x
  let ds := digits d.coefficient
  let leading := d.exponent + ds.length - 1
  match layout.positionalRange with
  | none => positional layout.showsPoint ds d.exponent
  | some (low, high) =>
    if low ≤ leading ∧ leading < high then positional layout.showsPoint ds d.exponent
    else scientific ds leading

/-- The text of a finite double. -/
def Layout.text (layout : Layout) (x : Double.Finite) : List Char :=
  let body :=
    if x.significand = 0 then positional layout.showsPoint ['0'] 0 else layout.magnitude x
  if x.negative then '-' :: body else body

/-- The shortest digits with the point in its place; whole numbers show no point, and no exponent is
    ever written. -/
def plainLayout : Layout := ⟨none, false, .away⟩

/-- The plain text of any double. -/
def plainText : Double → List Char
  | .nan => "NaN".toList
  | .infinity false => "inf".toList
  | .infinity true => "-inf".toList
  | .finite x => plainLayout.text x

end PinTypes.Number
