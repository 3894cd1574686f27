import PinTypes.Enumeration.Basic
import PinTypes.Error
import PinTypes.Scalar.Exchange

/-!
# `PinTypes.Enumeration.Selection` — between scalars and positions

Going out, a position becomes the scalar of the member there. Coming in, a scalar becomes a position and
nothing is refused: a member with its key is taken, failing that the scalar is read as a position, and
failing that the first member is taken.

## Contents
- **Going out.** `EnumType.valueAt?`, `EnumType.valueAt`.
- **Coming in.** `SelectionRule`, `Selection`, `EnumType.select`, `EnumType.ordinalOf`.
-/

namespace PinTypes

namespace EnumType

/-! ## Going out -/

/-- The scalar of the member at a position. -/
def valueAt? (t : EnumType) (ordinal : Nat) : Option Scalar := t.variants[ordinal]?

/-- The scalar of the member at a position, or the error that there is none. -/
def valueAt (t : EnumType) (ordinal : Nat) : Except Error Scalar :=
  match t.valueAt? ordinal with
  | some s => .ok s
  | none => .error (.ordinalOutOfRange t.identity ordinal t.size)

end EnumType

/-! ## Coming in -/

/-- How a position was found. -/
inductive SelectionRule where
  /-- A member has the key. -/
  | key
  /-- The scalar is the position. -/
  | ordinal
  /-- The first member stands in. -/
  | fallback
deriving DecidableEq, Repr

/-- A position and how it was found. -/
structure Selection where
  ordinal : Nat
  rule : SelectionRule
deriving DecidableEq, Repr

namespace EnumType

/-- The position that a value sent to the type stands for. -/
def select {α : Type} [ToScalar α] (t : EnumType) (raw : α) : Selection :=
  let s := toScalar raw
  match t.ordinalForKey s.key with
  | some ordinal => ⟨ordinal, .key⟩
  | none =>
    match s.ordinal?.filter (· < t.size) with
    | some ordinal => ⟨ordinal, .ordinal⟩
    | none => ⟨0, .fallback⟩

/-- The position alone. -/
def ordinalOf {α : Type} [ToScalar α] (t : EnumType) (raw : α) : Nat := (t.select raw).ordinal

end EnumType

end PinTypes
