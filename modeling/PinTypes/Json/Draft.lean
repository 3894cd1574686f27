import PinTypes.Json.Basic
import PinTypes.Number.Reading

/-!
# `PinTypes.Json.Draft` — JSON text read up to its first fault

A text is read into a tree that goes as far as the text does: where reading had to stop, the tree holds a
`fault`, and the arrays and objects around it stay open. What is wrong with the *meaning* of a token, an
overflowing number or half of a surrogate pair, is kept apart from what is wrong with its *form*: such a
token can still be passed over by a decoder that does not want its value. So decoders, walking the tree
front to back, can tell which of several problems comes first.

## Contents
- **The tree.** `Draft`, `Draft.ofJson`.
- **Numbers.** `scanNumber`.
- **Strings.** `Piece`, `scanPieces`, `joinPieces`, `scanString`.
- **Values.** `scan`, with `scanItems` and `scanMembers`; `Draft.ofText`.
-/

namespace PinTypes.Json

open PinTypes.Number (spanDigits ofDigits splitSign signed)

/-! ## The tree -/

/-- What could be read of a text. -/
inductive Draft where
  | null
  | bool (b : Bool)
  /-- A number; `none` if it is too great for a double. -/
  | number (n : Option Json.Number)
  /-- A string; `none` if it holds half of a surrogate pair. -/
  | text (s : Option String)
  /-- Items, and whether the closing bracket was reached. -/
  | array (items : List Draft) (closed : Bool)
  /-- Members, names like strings, and whether the closing brace was reached. -/
  | object (members : List (Option String × Draft)) (closed : Bool)
  /-- Nothing that a value could start with, or a broken token. -/
  | fault

mutual

/-- The tree of a value, with no fault in it. -/
def Draft.ofJson : Json → Draft
  | .null => .null
  | .bool b => .bool b
  | .number n => .number (some n)
  | .string s => .text (some s)
  | .array items => .array (Draft.ofItems items) true
  | .object members => .object (Draft.ofMembers members) true

/-- The trees of items. -/
def Draft.ofItems : List Json → List Draft
  | [] => []
  | x :: xs => Draft.ofJson x :: Draft.ofItems xs

/-- The trees of members. -/
def Draft.ofMembers : List (String × Json) → List (Option String × Draft)
  | [] => []
  | (name, x) :: ms => (some name, Draft.ofJson x) :: Draft.ofMembers ms

end

/-! ## Numbers -/

/-- The finite number that a double is. -/
def finiteNumber? : Double → Option Json.Number
  | .finite x => some (.float x)
  | _ => none

/-- A whole number as written: out of the range of 64 bits it is a double, and so is minus zero. -/
def integerNumber? (negative : Bool) (n : Nat) : Option Json.Number :=
  let value := signed negative n
  if h : IntegerRange value ∧ ¬(negative ∧ n = 0) then some (.integer value h.1)
  else finiteNumber? (Double.ofDecimal negative n 0)

/-- The digits of a whole part: a zero, or digits that start with another one. -/
def scanWhole (cs : List Char) : Option (List Char × List Char) :=
  match spanDigits cs with
  | ([], _) => none
  | ('0' :: _ :: _, _) => none
  | found => some found

/-- The digits behind a point, `none` without a point. A point needs a digit behind it. -/
def scanFraction : List Char → Option (Option (List Char) × List Char)
  | '.' :: cs =>
    match spanDigits cs with
    | ([], _) => none
    | (ds, rest) => some (some ds, rest)
  | cs => some (none, cs)

/-- The exponent, `none` without one. The letter needs a digit behind it and behind its sign. -/
def scanExponent : List Char → Option (Option Int × List Char)
  | c :: cs =>
    if c = 'e' ∨ c = 'E' then
      let (negative, afterSign) := splitSign cs
      match spanDigits afterSign with
      | ([], _) => none
      | (ds, rest) => some (some (signed negative (ofDigits ds)), rest)
    else some (none, c :: cs)
  | [] => some (none, [])

/-- Reads a number off the front of a text. -/
def scanNumber (cs : List Char) : Option (Option Json.Number × List Char) := do
  let (negative, unsigned) := match cs with
    | '-' :: rest => (true, rest)
    | rest => (false, rest)
  let (whole, afterWhole) ← scanWhole unsigned
  let (fraction, afterFraction) ← scanFraction afterWhole
  let (exponent, rest) ← scanExponent afterFraction
  let number := match fraction, exponent with
    | none, none => integerNumber? negative (ofDigits whole)
    | _, _ =>
      let behind := fraction.getD []
      finiteNumber? (Double.ofDecimal negative (ofDigits (whole ++ behind))
        (exponent.getD 0 - behind.length))
  return (number, rest)

/-! ## Strings -/

/-- A part of a string: a character, or a unit of sixteen bits written in base sixteen. -/
inductive Piece where
  | char (c : Char)
  | unit (n : Nat)
deriving DecidableEq, Repr

/-- The value of a digit of base sixteen. -/
def hexValue? (c : Char) : Option Nat :=
  if '0' ≤ c ∧ c ≤ '9' then some (c.toNat - '0'.toNat)
  else if 'a' ≤ c ∧ c ≤ 'f' then some (c.toNat - 'a'.toNat + 10)
  else if 'A' ≤ c ∧ c ≤ 'F' then some (c.toNat - 'A'.toNat + 10)
  else none

/-- The unit that four digits of base sixteen stand for. -/
def hexUnit? (a b c d : Char) : Option Nat := do
  return ((← hexValue? a) * 16 + (← hexValue? b)) * 256 + (← hexValue? c) * 16 + (← hexValue? d)

/-- The character that a backslash and a letter stand for. -/
def escapedChar? : Char → Option Char
  | '"' => some '"'
  | '\\' => some '\\'
  | '/' => some '/'
  | 'b' => some '\x08'
  | 'f' => some '\x0c'
  | 'n' => some '\n'
  | 'r' => some '\r'
  | 't' => some '\t'
  | _ => none

/-- The pieces of a string up to its closing quote, and the rest of the text. -/
def scanPieces : List Char → Option (List Piece × List Char)
  | [] => none
  | '"' :: cs => some ([], cs)
  | '\\' :: 'u' :: a :: b :: c :: d :: cs => do
    let n ← hexUnit? a b c d
    let (pieces, rest) ← scanPieces cs
    return (.unit n :: pieces, rest)
  | '\\' :: c :: cs => do
    let found ← escapedChar? c
    let (pieces, rest) ← scanPieces cs
    return (.char found :: pieces, rest)
  | c :: cs =>
    if c.toNat < 0x20 ∨ c = '\\' then none
    else do
      let (pieces, rest) ← scanPieces cs
      return (.char c :: pieces, rest)

/-- Whether a unit is the first half of a surrogate pair. -/
def isHighHalf (n : Nat) : Bool := 0xD800 ≤ n && n < 0xDC00

/-- Whether a unit is the second half of a surrogate pair. -/
def isLowHalf (n : Nat) : Bool := 0xDC00 ≤ n && n < 0xE000

/-- The characters of the pieces, two halves put together; `none` if a half stands alone. -/
def joinPieces : List Piece → Option (List Char)
  | [] => some []
  | .char c :: ps => (joinPieces ps).map (c :: ·)
  | .unit n :: .unit m :: ps =>
    if isHighHalf n then
      if isLowHalf m then
        (joinPieces ps).map (Char.ofNat (0x10000 + (n - 0xD800) * 0x400 + (m - 0xDC00)) :: ·)
      else none
    else if isLowHalf n then none
    else (joinPieces (.unit m :: ps)).map (Char.ofNat n :: ·)
  | .unit n :: ps =>
    if isHighHalf n || isLowHalf n then none else (joinPieces ps).map (Char.ofNat n :: ·)

/-- Reads a string whose opening quote is behind us. -/
def scanString (cs : List Char) : Option (Option String × List Char) :=
  (scanPieces cs).map fun (pieces, rest) => ((joinPieces pieces).map String.ofList, rest)

/-! ## Values -/

/-- The blanks that may stand between tokens. -/
def isSpace (c : Char) : Bool := c == ' ' || c == '\t' || c == '\n' || c == '\r'

/-- The text behind the blanks that it starts with. -/
def skipSpaces (cs : List Char) : List Char := cs.dropWhile isSpace

/-- Reads a token that is neither a string nor a bracket. -/
def scanWord : List Char → Draft × Option (List Char)
  | 'n' :: 'u' :: 'l' :: 'l' :: rest => (.null, some rest)
  | 't' :: 'r' :: 'u' :: 'e' :: rest => (.bool true, some rest)
  | 'f' :: 'a' :: 'l' :: 's' :: 'e' :: rest => (.bool false, some rest)
  | cs =>
    match scanNumber cs with
    | some (n, rest) => (.number n, some rest)
    | none => (.fault, none)

mutual

/-- Reads a value off the front of a text. The rest is `none` once reading had to stop. Every second
    level of the recursion takes a character, so twice the length of the text is fuel enough. -/
def scan : Nat → List Char → Draft × Option (List Char)
  | 0, _ => (.fault, none)
  | fuel + 1, cs =>
    match skipSpaces cs with
    | '"' :: cs =>
      match scanString cs with
      | some (s, rest) => (.text s, some rest)
      | none => (.fault, none)
    | '[' :: cs =>
      match skipSpaces cs with
      | ']' :: rest => (.array [] true, some rest)
      | cs =>
        let (items, rest) := scanItems fuel cs
        (.array items rest.isSome, rest)
    | '\x7b' :: cs =>
      match skipSpaces cs with
      | '\x7d' :: rest => (.object [] true, some rest)
      | cs =>
        let (members, rest) := scanMembers fuel cs
        (.object members rest.isSome, rest)
    | cs => scanWord cs

/-- Reads items up to the closing bracket. -/
def scanItems : Nat → List Char → List Draft × Option (List Char)
  | 0, _ => ([], none)
  | fuel + 1, cs =>
    match scan fuel cs with
    | (x, none) => ([x], none)
    | (x, some rest) =>
      match skipSpaces rest with
      | ',' :: rest =>
        let (xs, rest) := scanItems fuel rest
        (x :: xs, rest)
      | ']' :: rest => ([x], some rest)
      | _ => ([x], none)

/-- Reads members up to the closing brace. Nothing but a string can name a member. -/
def scanMembers : Nat → List Char → List (Option String × Draft) × Option (List Char)
  | 0, _ => ([], none)
  | fuel + 1, cs =>
    match skipSpaces cs with
    | '"' :: cs =>
      match scanString cs with
      | none => ([], none)
      | some (name, rest) =>
        match skipSpaces rest with
        | ':' :: rest =>
          match scan fuel rest with
          | (x, none) => ([(name, x)], none)
          | (x, some rest) =>
            match skipSpaces rest with
            | ',' :: rest =>
              let (ms, rest) := scanMembers fuel rest
              ((name, x) :: ms, rest)
            | '\x7d' :: rest => ([(name, x)], some rest)
            | _ => ([(name, x)], none)
        | _ => ([(name, .fault)], none)
    | _ => ([], none)

end

/-- The tree of a text, and whether nothing but blanks stands behind the value. -/
def Draft.ofText (s : String) : Draft × Bool :=
  let cs := s.toList
  match scan (2 * cs.length + 2) cs with
  | (x, some rest) => (x, (skipSpaces rest).isEmpty)
  | (x, none) => (x, false)

end PinTypes.Json
