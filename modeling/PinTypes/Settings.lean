import PinTypes.Json.Readable
import PinTypes.Json.Writable
import PinTypes.Text.Blank

/-!
# `PinTypes.Settings` — settings

## Contents
- **The settings.** `Settings` and their defaults.
- **Fallback names.** `Settings.fallbackName`: what an enumerated type without a name is called.
- **As JSON.** `Settings.fields`; all fields have defaults.
-/

namespace PinTypes

open Json (Writable Readable RecordField field record)

/-- Settings for minting types and describing pins. -/
structure Settings where
  /-- The name of types for which no other name is left. -/
  defaultTypeName : String := "DynamicEnum"
  /-- What the names of types without a name start with. -/
  fallbackStem : String := "Enum"
  /-- Whether help texts lose the period at the end of each line. -/
  cleansHelp : Bool := true
deriving DecidableEq

namespace Settings

/-- The fallback name with the name of the pin behind it, if there is one. -/
def fallbackName (s : Settings) (pin : Option String) : String :=
  match (pin.map Text.trimmed).filter (· ≠ "") with
  | some name => s.fallbackStem ++ "_" ++ name
  | none => s.fallbackStem

/-- The fields, in order of declaration. -/
def fields : List (RecordField Settings) := [
  { name := "default_enum_name", required := false
    read := fun _ x s => return { s with defaultTypeName := ← x.asString } },
  { name := "enum_fallback_prefix", required := false
    read := fun _ x s => return { s with fallbackStem := ← x.asString } },
  { name := "clean_descriptions", required := false
    read := fun _ x s => return { s with cleansHelp := ← x.asBool } }]

instance : Readable Settings := ⟨Json.Draft.asRecord fields {}⟩

instance : Writable Settings :=
  ⟨fun s => record [
    field "default_enum_name" s.defaultTypeName,
    field "enum_fallback_prefix" s.fallbackStem,
    field "clean_descriptions" s.cleansHelp]⟩

end Settings

end PinTypes
