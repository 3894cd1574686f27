import PinTypes.Scalar.Basic
import PinTypes.Text.Alphanumeric
import PinTypes.Text.Uppercase

/-!
# `PinTypes.Identifier` — names for types and members

Names of enumerated types and labels of their members are made from arbitrary text: letters and digits
stay, everything between them becomes one underscore.

## Contents
- **Sanitizing.** `masked`, `collapsed`, `stripped`, and `ofText` as their composition.
- **Member labels.** `labelFor` for one scalar, `labelsFor` for a list, where a label that is taken
  gets the position behind it.
- **Display names.** `readable` puts a blank before a capital that follows anything else.
-/

namespace PinTypes.Identifier

open PinTypes.Text (isAlphanumeric isCapital trim)

/-! ## Sanitizing -/

/-- Every character that is neither alphanumeric nor an underscore becomes an underscore. -/
def masked (cs : List Char) : List Char :=
  cs.map fun c => if isAlphanumeric c || c == '_' then c else '_'

/-- Of underscores in a row one is kept. -/
def collapsed : List Char → List Char
  | [] => []
  | c :: cs => if c = '_' ∧ cs.head? = some '_' then collapsed cs else c :: collapsed cs

/-- The text without underscores at either end. -/
def stripped (cs : List Char) : List Char :=
  ((cs.dropWhile (· == '_')).reverse.dropWhile (· == '_')).reverse

/-- The identifier made from a text; empty if no letter or digit is in it. -/
def identifierChars (cs : List Char) : List Char := stripped (collapsed (masked cs))

/-- `identifierChars` on strings. -/
def ofText (s : String) : String := String.ofList (identifierChars s.toList)

/-! ## Member labels -/

/-- The text that the label of a scalar is made from. -/
def labelSource : Scalar → List Char
  | .null => []
  | s => trim s.text.toList

/-- The label of the member at a position. Where nothing is left of the text the position stands in;
    a label never starts with an ASCII digit. -/
def labelFor (value : Scalar) (position : Nat) : String :=
  match identifierChars (labelSource value) with
  | [] => String.ofList ("Value_".toList ++ Number.padded 2 position)
  | c :: cs => if c.isDigit then String.ofList ('V' :: '_' :: c :: cs) else String.ofList (c :: cs)

/-- The label, with the position behind it if it is taken. -/
def distinguished (taken : List String) (label : String) (position : Nat) : String :=
  if label ∈ taken then label ++ String.ofList ('_' :: Number.digits position) else label

/-- The labels of members from a position on, after the labels that are taken. -/
def labelsFrom (position : Nat) (taken : List String) : List Scalar → List String
  | [] => []
  | v :: vs =>
    let label := distinguished taken (labelFor v position) position
    label :: labelsFrom (position + 1) (label :: taken) vs

/-- The labels of a list of members. -/
def labelsFor (values : List Scalar) : List String := labelsFrom 0 [] values

@[simp] theorem length_labelsFrom (position : Nat) (taken : List String) (values : List Scalar) :
    (labelsFrom position taken values).length = values.length := by
  induction values generalizing position taken with
  | nil => rfl
  | cons v vs ih => simp [labelsFrom, ih]

@[simp] theorem length_labelsFor (values : List Scalar) :
    (labelsFor values).length = values.length := length_labelsFrom ..

/-! ## Display names -/

/-- Puts a blank before each capital that follows a character other than a capital. -/
def spacedAfter (previous : Option Char) : List Char → List Char
  | [] => []
  | c :: cs =>
    let breaks := isCapital c && previous.any (!isCapital ·)
    (if breaks then [' ', c] else [c]) ++ spacedAfter (some c) cs

/-- The readable form of a label. -/
def readable (label : String) : String := String.ofList (spacedAfter none label.toList)

end PinTypes.Identifier
