import PinTypes.Number.Integer
import PinTypes.Number.Double

/-!
# `PinTypes.Number.Reading` — doubles from text

The decimal notation of doubles: an optional sign, digits with an optional point (a digit on at least one
side of it), an optional exponent; or the words for infinity and not-a-number in any letter case. The
nearest double is taken.

## Contents
- **Pieces.** `spanDigits`, `readExponent`.
- **Numbers.** `readDecimal`, `readDouble`.
-/

namespace PinTypes.Number

/-- The digits a text starts with, and the rest. -/
def spanDigits (cs : List Char) : List Char × List Char :=
  (cs.takeWhile Char.isDigit, cs.dropWhile Char.isDigit)

/-- The exponent that the rest of a number consists of: nothing, or `e`, an optional sign and digits. -/
def readExponent : List Char → Option Int
  | [] => some 0
  | c :: cs =>
    let (negative, ds) := splitSign cs
    if (c = 'e' ∨ c = 'E') ∧ ds ≠ [] ∧ ds.all Char.isDigit then some (signed negative (ofDigits ds))
    else none

/-- Digits behind a point, if there is one, and the rest. -/
def spanFraction : List Char → List Char × List Char
  | '.' :: cs => spanDigits cs
  | cs => ([], cs)

/-- Reads digits with an optional point and an optional exponent. -/
def readDecimal (negative : Bool) (cs : List Char) : Option Double :=
  let (whole, afterWhole) := spanDigits cs
  let (fraction, rest) := spanFraction afterWhole
  if whole = [] ∧ fraction = [] then none
  else
    (readExponent rest).map fun e =>
      Double.ofDecimal negative (ofDigits (whole ++ fraction)) (e - fraction.length)

/-- Reads a double; nothing may stand around it. -/
def readDouble (cs : List Char) : Option Double :=
  let (negative, body) := splitSign cs
  let word := String.ofList (body.map Char.toLower)
  if word = "inf" ∨ word = "infinity" then some (.infinity negative)
  else if word = "nan" then some .nan
  else readDecimal negative body

end PinTypes.Number
