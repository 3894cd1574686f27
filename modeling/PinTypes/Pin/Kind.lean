import PinTypes.Enumeration.Selection
import PinTypes.Media

/-!
# `PinTypes.Pin.Kind` — kinds of pins

What a pin of the editor can hold. A pin for an enumerated type holds the instance of the type that it
offers.

## Contents
- **The kinds.** `PinKind`, `PinKind.name`, `PinKind.enumType?`.
- **Equality.** `PinKind.same`, which compares enumerated types by instance.
-/

namespace PinTypes

/-- What a pin holds. -/
inductive PinKind where
  | text
  | integer
  | float
  | boolean
  | textList
  | object
  | dateTime
  | enumeration (type : EnumType)
  | media (family : MediaKind)

namespace PinKind

/-- The short name of a kind. -/
def name : PinKind → String
  | text => "string"
  | integer => "integer"
  | float => "float"
  | boolean => "boolean"
  | textList => "string_list"
  | object => "object"
  | dateTime => "datetime"
  | enumeration _ => "enum"
  | media _ => "media"

/-- The enumerated type that the pin offers. -/
def enumType? : PinKind → Option EnumType
  | enumeration t => some t
  | _ => none

/-- Whether two kinds are the same; enumerated types are the same as instances. -/
def same : PinKind → PinKind → Bool
  | enumeration t, enumeration u => t.sameInstance u
  | media f, media g => f == g
  | k, l => k.name == l.name

end PinKind

end PinTypes
