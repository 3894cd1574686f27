import PinTypes.Json.Printer

/-!
# `PinTypes.Json.Writable` — from the types of the library to JSON

Every type has one written form. Records list their fields in order of declaration and may leave some
out; as a *value*, with the members in order of their names, a record is the canonical form of what is
written.

## Contents
- **The class.** `Writable`, with instances for plain values, options and lists.
- **Records.** `field`, `fieldUnless`, `record`.
- **As text and as value.** `Writable.toText`, `Writable.toValue`.
-/

namespace PinTypes.Json

/-- Types with a written form. -/
class Writable (α : Type) where
  written : α → Json

export Writable (written)

instance : Writable Json := ⟨id⟩
instance : Writable Bool := ⟨.bool⟩
instance : Writable String := ⟨.string⟩
instance : Writable Nat := ⟨ofNat⟩
instance : Writable Int64 := ⟨ofInt64⟩
instance : Writable Double := ⟨ofDouble⟩

instance {α : Type} [Writable α] : Writable (Option α) :=
  ⟨fun
    | some x => written x
    | none => .null⟩

instance {α : Type} [Writable α] : Writable (List α) := ⟨fun xs => .array (xs.map written)⟩

/-! ## Records -/

/-- A field that is always written. -/
def field {α : Type} [Writable α] (name : String) (x : α) : List (String × Json) :=
  [(name, written x)]

/-- A field that is left out under a condition. -/
def fieldUnless {α : Type} [Writable α] (omitted : Bool) (name : String) (x : α) :
    List (String × Json) :=
  if omitted then [] else field name x

/-- The written form of a record. -/
def record (fields : List (List (String × Json))) : Json := .object fields.flatten

/-! ## As text and as value -/

/-- The compact text of the written form. -/
def Writable.toText {α : Type} [Writable α] (x : α) : String := (written x).render

/-- The written form as a value, members in order of their names. -/
def Writable.toValue {α : Type} [Writable α] (x : α) : Json := (written x).canonical

end PinTypes.Json
