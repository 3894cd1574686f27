import PinTypes.Json.Readable
import PinTypes.Json.Writable
import PinTypes.Scalar.Basic

/-!
# `PinTypes.Scalar.Exchange` — scalars and what is sent

Anything a schema may send becomes a scalar in one way, `toScalar`: JSON values, native values, optional
ones, and scalars themselves. A JSON number that is whole becomes an integer whichever way it was
written; arrays and objects become their text. Back again there are two ways to the same JSON:
`Scalar.toJson`, and the written form that scalars have like any other type.

## Contents
- **Coming in.** `ToScalar` and its instances; `Scalar.ofJson`.
- **Going out.** `Scalar.toJson`.
- **As a stored value.** The written form, and the decoder, for which `2.0` stays a double.
-/

namespace PinTypes

open Json (Writable Readable Draft Fault written)

/-! ## Coming in -/

/-- Types whose values can be sent as a scalar. -/
class ToScalar (α : Type) where
  toScalar : α → Scalar

export ToScalar (toScalar)

/-- The scalar that a JSON value stands for. -/
def Scalar.ofJson : Json → Scalar
  | .null => .null
  | .bool b => .bool b
  | .number n =>
    match n.int64? with
    | some i => .int i
    | none => .ofDouble n.toDouble
  | .string s => .string s
  | container => .string container.render

instance : ToScalar Scalar := ⟨id⟩
instance : ToScalar Json := ⟨Scalar.ofJson⟩
instance : ToScalar String := ⟨.string⟩
instance : ToScalar Bool := ⟨.bool⟩
instance : ToScalar Int64 := ⟨.int⟩
instance : ToScalar Double := ⟨.ofDouble⟩

instance {α : Type} [ToScalar α] : ToScalar (Option α) :=
  ⟨fun
    | some x => toScalar x
    | none => .null⟩

/-! ## Going out -/

/-- The JSON value that is sent for a scalar; null for a double that is not finite. -/
def Scalar.toJson : Scalar → Json
  | .null => .null
  | .bool b => .bool b
  | .int i => .ofInt64 i
  | .float x => .ofDouble x
  | .string s => .string s

/-! ## As a stored value -/

instance : Writable Scalar :=
  ⟨fun
    | .null => .null
    | .bool b => written b
    | .int i => written i
    | .float x => written x
    | .string s => written s⟩

/-- A scalar as it was stored: a number is an integer only if it was written as one and fits. -/
def Scalar.ofStored : Json → Except Fault Scalar
  | .null => .ok .null
  | .bool b => .ok (.bool b)
  | .number n =>
    match n.int64? with
    | some i => .ok (.int i)
    | none => .ok (.float n.toDouble)
  | .string s => .ok (.string s)
  | _ => .error .mismatch

/-- The whole value is read before its type is looked at. -/
def Scalar.ofDraft (depth : Nat) (x : Draft) : Except Fault Scalar := do
  let value ← x.asJson depth
  Scalar.ofStored value

instance : Readable Scalar := ⟨Scalar.ofDraft⟩

end PinTypes
