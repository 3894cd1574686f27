import PinTypes.SchemaType.Basic

/-!
# `PinTypes.SchemaType.Record` — schema types as JSON

The record of a type: every field has a default, and the types it is built from are records of the same
form. Nothing is written for a missing name, a missing list of values and an empty list of arguments.

## Contents
- **Writing.** `SchemaType.writtenForm`, the written form.
- **Reading.** `SchemaType.fields`, `SchemaType.ofDraft`.
-/

namespace PinTypes.SchemaType

open Json (Writable Readable Draft Fault RecordField field fieldUnless record)

/-! ## Writing -/

mutual

/-- The written form of a type. -/
def writtenForm : SchemaType → Json
  | ⟨word, declaredName, values, args, optional⟩ =>
    record [
      field "type" word,
      fieldUnless declaredName.isNone "type_name" declaredName,
      fieldUnless values.isNone "values" values,
      fieldUnless args.isEmpty "type_args" (Json.array (writtenForms args)),
      field "optional" optional]

/-- The written forms of types. -/
def writtenForms : List SchemaType → List Json
  | [] => []
  | t :: ts => writtenForm t :: writtenForms ts

end

instance : Writable SchemaType := ⟨writtenForm⟩

/-! ## Reading -/

/-- The fields, in order of declaration, given how a list of types is read. -/
def fields (readArgs : Nat → Draft → Except Fault (List SchemaType)) : List (RecordField SchemaType) := [
  { name := "type", required := false
    read := fun _ x t => return { t with word := ← x.asString } },
  { name := "type_name", required := false
    read := fun _ x t => return { t with declaredName := ← x.asOption Draft.asString } },
  { name := "values", required := false
    read := fun depth x t => return { t with values := ← x.asOption (Draft.asList Draft.asJson depth) } },
  { name := "type_args", required := false
    read := fun depth x t => return { t with args := ← readArgs depth x } },
  { name := "optional", required := false
    read := fun _ x t => return { t with optional := ← x.asBool } }]

/-- Reads a type. A record takes one level of nesting and the list of its arguments another. -/
def ofDraft : Nat → Draft → Except Fault SchemaType
  | 0, x => x.asRecord (fields (Draft.asList fun _ _ => .error .malformed)) blank 0
  | 1, x => x.asRecord (fields (Draft.asList fun _ _ => .error .malformed)) blank 1
  | depth + 2, x => x.asRecord (fields (Draft.asList fun _ => ofDraft depth)) blank (depth + 2)

instance : Readable SchemaType := ⟨ofDraft⟩

end PinTypes.SchemaType
