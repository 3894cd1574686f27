import PinTypes.Instant.Calendar
import PinTypes.Number.Integer
import PinTypes.Text.Blank

/-!
# `PinTypes.Instant.Reader` — instants from text

Two notations are read. The *strict* one has fixed widths, a four-digit year and an offset from universal
time at the end. The *loose* one has no offset and is taken as universal time; its month, day and time may
have one digit, blanks may stand before each number, and a year with a sign may have any number of
digits.

## Contents
- **Pieces.** `exactly`, `upTo`, `expect`, `readFraction`.
- **The strict notation.** `readOffset`, `readStrict`.
- **The loose notation.** `readYear`, `readLoose`.
- **Either.** `Instant.read`.
-/

namespace PinTypes.Instant

open PinTypes.Number (ofDigits tenTo)

/-! ## Pieces -/

/-- A number of exactly so many digits, and the rest. -/
def exactly (width : Nat) (cs : List Char) : Option (Nat × List Char) :=
  let ds := cs.take width
  if ds.length = width ∧ ds.all Char.isDigit then some (ofDigits ds, cs.drop width) else none

/-- A number of one digit or more, at most so many, and the rest. -/
def upTo (width : Nat) (cs : List Char) : Option (Nat × List Char) :=
  let ds := (cs.take width).takeWhile Char.isDigit
  if ds = [] then none else some (ofDigits ds, cs.drop ds.length)

/-- The rest behind one of the given characters. -/
def expect (allowed : List Char) : List Char → Option (List Char)
  | c :: cs => if c ∈ allowed then some cs else none
  | [] => none

/-- Nanoseconds behind a point, if there is one. A point needs a digit; digits beyond the ninth are cut
    off. -/
def readFraction : List Char → Option (Nat × List Char)
  | '.' :: cs =>
    let ds := cs.takeWhile Char.isDigit
    let kept := ds.take 9
    if ds = [] then none
    else some (ofDigits kept * tenTo (9 - kept.length), cs.dropWhile Char.isDigit)
  | cs => some (0, cs)

/-! ## The strict notation -/

/-- The offset that the rest of a text consists of, in minutes. -/
def readOffset : List Char → Option Int
  | ['Z'] => some 0
  | ['z'] => some 0
  | sign :: cs => do
    let (hours, cs) ← exactly 2 cs
    let cs ← expect [':'] cs
    let (minutes, cs) ← exactly 2 cs
    if cs = [] ∧ hours < 24 ∧ minutes < 60 then
      if sign = '+' then some (hours * 60 + minutes)
      else if sign = '-' ∨ sign = '\u2212' then some (-(hours * 60 + minutes))
      else none
    else none
  | [] => none

/-- Reads the strict notation. -/
def readStrict (cs : List Char) : Option Instant := do
  let (year, cs) ← exactly 4 cs
  let cs ← expect ['-'] cs
  let (month, cs) ← exactly 2 cs
  let cs ← expect ['-'] cs
  let (day, cs) ← exactly 2 cs
  let cs ← expect ['T', 't', ' '] cs
  let (hour, cs) ← exactly 2 cs
  let cs ← expect [':'] cs
  let (minute, cs) ← exactly 2 cs
  let cs ← expect [':'] cs
  let (second, cs) ← exactly 2 cs
  let (nanosecond, cs) ← readFraction cs
  let offset ← readOffset cs
  let t ← ofFields year month day hour minute second nanosecond
  return t.minusMinutes offset

/-! ## The loose notation -/

/-- A year: up to four digits, or a sign and any digits. -/
def readYear (cs : List Char) : Option (Int × List Char) :=
  match Text.trimStart cs with
  | '-' :: cs => (upTo cs.length cs).map fun (n, rest) => (-(n : Int), rest)
  | '+' :: cs => (upTo cs.length cs).map fun (n, rest) => ((n : Int), rest)
  | cs => (upTo 4 cs).map fun (n, rest) => ((n : Int), rest)

/-- A number of one or two digits with blanks before it. -/
def readShort (cs : List Char) : Option (Nat × List Char) := upTo 2 (Text.trimStart cs)

/-- The first year that the loose notation reaches. -/
def firstYear : Int := -262143

/-- The last year that the loose notation reaches. -/
def lastYear : Int := 262142

/-- Reads the loose notation. -/
def readLoose (cs : List Char) : Option Instant := do
  let (year, cs) ← readYear cs
  let cs ← expect ['-'] cs
  let (month, cs) ← readShort cs
  let cs ← expect ['-'] cs
  let (day, cs) ← readShort cs
  let cs ← expect ['T'] cs
  let (hour, cs) ← readShort cs
  let cs ← expect [':'] cs
  let (minute, cs) ← readShort cs
  let cs ← expect [':'] cs
  let (second, cs) ← readShort cs
  let (nanosecond, cs) ← readFraction cs
  if cs = [] ∧ firstYear ≤ year ∧ year ≤ lastYear then
    ofFields year month day hour minute second nanosecond
  else none

/-! ## Either -/

/-- Reads either notation, blanks around it left out. -/
def read (cs : List Char) : Option Instant :=
  let cs := Text.trim cs
  (readStrict cs).or (readLoose cs)

end PinTypes.Instant
