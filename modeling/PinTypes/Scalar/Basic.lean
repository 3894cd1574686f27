import PinTypes.Number.Layout
import PinTypes.Text.Blank

/-!
# `PinTypes.Scalar.Basic` — scalar values

What a remote schema lists as a value of an enumerated type, or sends as a default, is one of five
scalars. Two scalars are told apart by their *keys*: the key is the text without the blanks around it, so
that the number `2` and the string `" 2 "` have one key, while null has a key of its own.

## Contents
- **The type.** `Scalar`, `Scalar.isNull`, `Scalar.string?`.
- **Doubles.** `Scalar.ofDouble` makes whole doubles integers.
- **Text and keys.** `Scalar.text`, `nullKey`, `Scalar.key`.
- **As a position.** `Scalar.ordinal?`.
-/

namespace PinTypes

/-- A scalar value. -/
inductive Scalar where
  | null
  | bool (b : Bool)
  | int (i : Int64)
  | float (x : Double)
  | string (s : String)
deriving DecidableEq

namespace Scalar

instance : Inhabited Scalar := ⟨null⟩

/-- Whether the scalar is null. -/
def isNull : Scalar → Bool
  | null => true
  | _ => false

/-- The text of a string scalar. -/
def string? : Scalar → Option String
  | string s => some s
  | _ => none

/-! ## Doubles -/

/-- A whole double within 64 signed bits is an integer; any other double stays one. -/
def ofDouble (x : Double) : Scalar :=
  let whole := match x with
    | .finite y => y.integer?.bind Number.toInt64?
    | _ => none
  match whole with
  | some i => int i
  | none => float x

/-! ## Text and keys -/

/-- The text of a scalar. -/
def text : Scalar → String
  | null => "null"
  | bool b => if b then "true" else "false"
  | int i => String.ofList (Number.showInt i.toInt)
  | float x => String.ofList (Number.plainText x)
  | string s => s

/-- The key of null. It starts with a NUL. -/
def nullKey : String := "\x00null"

/-- What the scalar is compared by: its text without the blanks around it, or the key of null. -/
def key : Scalar → String
  | null => nullKey
  | s => Text.trimmed s.text

@[simp] theorem key_null : key null = nullKey := rfl

@[simp] theorem key_string (s : String) : key (string s) = Text.trimmed s := rfl

/-! ## As a position -/

/-- A whole number that is not negative, or a string that reads as one. -/
def ordinal? (s : Scalar) : Option Nat :=
  let whole := match s with
    | int i => some i
    | string t => Number.readInt64 (Text.trim t.toList)
    | _ => none
  whole.bind fun i => if 0 ≤ i.toInt then some i.toInt.toNat else none

end Scalar

end PinTypes
