import PinTypes.Media
import PinTypes.Text.Blank
import PinTypes.Text.Lowercase

/-!
# `PinTypes.SchemaType.Kind` — kinds of schema types

A schema names the kind of a type by a word. Blanks around the word and the case of its ASCII letters do
not matter, and several words may name one kind.

## Contents
- **The kinds.** `Kind`, `Kind.ofName`.
- **Words.** `canonicalWord`.
- **Classes.** `isScalar`, `isNumeric`, `isBoolean`, `isTextual`, `isAsset`.
-/

namespace PinTypes

/-- What kind of type a schema names. -/
inductive Kind where
  | text
  | integer
  | number
  | boolean
  | list
  | dict
  | dateTime
  | enumeration
  | union
  | tuple
  | media (family : MediaKind)
  | folder
  | modelReference
  | unknown
deriving DecidableEq, Repr

/-- The word as it is compared: no blanks around it, ASCII letters small. -/
def canonicalWord (word : String) : String := Text.loweredAscii (Text.trimmed word)

namespace Kind

/-- The kind that a word in its compared form names. -/
def ofName : String → Kind
  | "str" => text
  | "string" => text
  | "text" => text
  | "int" => integer
  | "integer" => integer
  | "float" => number
  | "number" => number
  | "bool" => boolean
  | "boolean" => boolean
  | "list" => list
  | "array" => list
  | "dict" => dict
  | "object" => dict
  | "datetime" => dateTime
  | "enum" => enumeration
  | "any" => union
  | "union" => union
  | "oneof" => union
  | "either" => union
  | "tuple" => tuple
  | "image" => media .image
  | "audio" => media .audio
  | "video" => media .video
  | "document" => media .document
  | "folder" => folder
  | "model_ref" => modelReference
  | _ => unknown

/-- Whether the kind is numeric. -/
def isNumeric : Kind → Bool
  | integer | number => true
  | _ => false

/-- Whether the kind is that of truth values. -/
def isBoolean : Kind → Bool
  | boolean => true
  | _ => false

/-- Whether the kind is that of texts. -/
def isTextual : Kind → Bool
  | text => true
  | _ => false

/-- Whether the kind is a scalar one. -/
def isScalar (k : Kind) : Bool := k.isNumeric || k.isBoolean || k.isTextual

/-- Whether the kind refers to an asset and not to inline data. -/
def isAsset : Kind → Bool
  | media _ | folder | modelReference => true
  | _ => false

end Kind

end PinTypes
