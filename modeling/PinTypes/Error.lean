import PinTypes.Json.Printer

/-!
# `PinTypes.Error` — what can go wrong

Typing a pin never fails; these errors are what its parts report to callers that ask.

## Contents
- **Causes.** `Error`.
- **Texts.** `Error.message`.
-/

namespace PinTypes

/-- Why a value could not be had. -/
inductive Error where
  /-- A position beyond the members of a type. -/
  | ordinalOutOfRange (typeName : String) (ordinal size : Nat)
  /-- A value that is none of the expected kind. -/
  | coercion (expected : String) (value : Json)
  /-- A type without values. -/
  | emptyValues (typeName : String)

/-- The text of an error. -/
def Error.message : Error → String
  | ordinalOutOfRange name ordinal size =>
    "Ordinal " ++ toString ordinal ++ " is out of range for enum '" ++ name ++ "' with "
      ++ toString size ++ " variants"
  | coercion expected value => "Cannot coerce " ++ value.render ++ " into " ++ expected
  | emptyValues name => "Enum '" ++ name ++ "' has an empty value set"

end PinTypes
