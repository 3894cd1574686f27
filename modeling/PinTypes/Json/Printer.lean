import PinTypes.Json.Basic
import PinTypes.Number.Layout

/-!
# `PinTypes.Json.Printer` — JSON values as compact text

No blanks between tokens. Strings escape the quote, the backslash and the control characters below U+0020,
five of them by a letter; all else stands for itself. Doubles show a point or an exponent, so that they
are not taken for whole numbers.

## Contents
- **Strings.** `escaped`, `quoted`.
- **Numbers.** `doubleLayout`, `Json.Number.text`.
- **Values.** `Json.text` as characters, `Json.render` as a string.
-/

namespace PinTypes.Json

/-! ## Strings -/

/-- A digit of base sixteen. -/
def hexDigit (n : Nat) : Char := Nat.digitChar (n % 16)

/-- How a character is written inside a string. -/
def escaped (c : Char) : List Char :=
  if c = '"' then ['\\', '"']
  else if c = '\\' then ['\\', '\\']
  else if 0x20 ≤ c.toNat then [c]
  else if c = '\x08' then ['\\', 'b']
  else if c = '\x0c' then ['\\', 'f']
  else if c = '\n' then ['\\', 'n']
  else if c = '\r' then ['\\', 'r']
  else if c = '\t' then ['\\', 't']
  else ['\\', 'u', '0', '0', hexDigit (c.toNat / 16), hexDigit c.toNat]

/-- A string between quotes. -/
def quoted (s : String) : List Char := '"' :: s.toList.flatMap escaped ++ ['"']

/-! ## Numbers -/

/-- Doubles are written by position from `10 ^ -5` on and below `10 ^ 16`, whole ones with `.0`, and with
    an exponent otherwise; a tie between two shortest decimals goes to the even one. -/
def doubleLayout : Number.Layout := ⟨some (-5, 16), true, .even⟩

/-- The text of a number. -/
def Number.text : Json.Number → List Char
  | .integer n _ => PinTypes.Number.showInt n
  | .float x => doubleLayout.text x

/-! ## Values -/

mutual

/-- The compact text of a value. -/
def text : Json → List Char
  | .null => ['n', 'u', 'l', 'l']
  | .bool true => ['t', 'r', 'u', 'e']
  | .bool false => ['f', 'a', 'l', 's', 'e']
  | .number n => n.text
  | .string s => quoted s
  | .array [] => ['[', ']']
  | .array (x :: xs) => '[' :: text x ++ itemsText xs
  | .object [] => ['\x7b', '\x7d']
  | .object ((name, x) :: ms) => '\x7b' :: quoted name ++ ':' :: text x ++ membersText ms

/-- The items behind the first one, and the closing bracket. -/
def itemsText : List Json → List Char
  | [] => [']']
  | x :: xs => ',' :: text x ++ itemsText xs

/-- The members behind the first one, and the closing brace. -/
def membersText : List (String × Json) → List Char
  | [] => ['\x7d']
  | (name, x) :: ms => ',' :: quoted name ++ ':' :: text x ++ membersText ms

end

/-- The compact text of a value, as a string. -/
def render (x : Json) : String := String.ofList x.text

end PinTypes.Json
