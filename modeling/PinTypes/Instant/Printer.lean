import PinTypes.Instant.Calendar
import PinTypes.Number.Integer

/-!
# `PinTypes.Instant.Printer` — instants as text

`2024-05-01T12:30:00.500+00:00`: years from 0 to 9999 have four digits and no sign, any other year has a
sign; the fraction is left out if it is zero and has three, six or nine digits otherwise.

## Contents
- **Parts.** `yearText`, `fractionText`.
- **The text.** `Instant.text`.
-/

namespace PinTypes.Instant

open PinTypes.Number (padded)

/-- Four digits, or a sign and at least four digits. -/
def yearText (year : Int) : List Char :=
  if 0 ≤ year ∧ year ≤ 9999 then padded 4 year.toNat
  else (if year < 0 then '-' else '+') :: padded 4 year.natAbs

/-- The fraction of a second with its point, to as many thousands as needed. -/
def fractionText (nanosecond : Nat) : List Char :=
  if nanosecond = 0 then []
  else if nanosecond % 1000000 = 0 then '.' :: padded 3 (nanosecond / 1000000)
  else if nanosecond % 1000 = 0 then '.' :: padded 6 (nanosecond / 1000)
  else '.' :: padded 9 nanosecond

/-- The text of an instant. -/
def text (t : Instant) : List Char :=
  yearText t.date.year ++ '-' :: padded 2 t.date.month ++ '-' :: padded 2 t.date.day ++
    'T' :: padded 2 t.hour ++ ':' :: padded 2 t.minute ++ ':' :: padded 2 t.second ++
    fractionText t.nanosecond ++ ['+', '0', '0', ':', '0', '0']

end PinTypes.Instant
