import PinTypes.SchemaType.Kind

/-!
# `PinTypes.SchemaType.Basic` — types as a schema describes them

A schema describes the type of a parameter by a tree: the word for its kind, perhaps a declared name, the
values of an enumerated type, and the types it is built from.

## Contents
- **The tree.** `SchemaType`, `blank`, `ofWord`, `enumeration`, `union`.
- **Reading it.** `kind`, `name?`, `valueList`.
- **Classes.** `isEnumeration`, `isList`, `isDict`, `isUnion`, `isScalar`, `isAsset`, and
  `refersToAsset`, which looks through unions.
- **As text.** `SchemaType.text`.
-/

namespace PinTypes

/-- A type as a schema describes it. -/
structure SchemaType where
  /-- The word for the kind. -/
  word : String
  /-- The declared name. -/
  declaredName : Option String
  /-- The values of an enumerated type, in order. -/
  values : Option (List Json)
  /-- The types of items, of keys and values, or the members of a union. -/
  args : List SchemaType
  /-- Whether a value may be missing. -/
  optional : Bool

namespace SchemaType

/-- The type of which nothing is said. -/
def blank : SchemaType := ⟨"", none, none, [], false⟩

instance : Inhabited SchemaType := ⟨blank⟩

/-- The type of that kind, of which nothing else is said. -/
def ofWord (word : String) : SchemaType := { blank with word }

/-- The enumerated type of that name with those values. -/
def enumeration (name : String) (values : List Json) : SchemaType :=
  { blank with word := "enum", declaredName := some name, values := some values }

/-- The union of the members. -/
def union (members : List SchemaType) : SchemaType := { blank with word := "union", args := members }

/-! ## Reading it -/

/-- The word for the kind in the form in which it is compared. -/
def kindName (t : SchemaType) : String := canonicalWord t.word

/-- The kind. -/
def kind (t : SchemaType) : Kind := .ofName t.kindName

/-- The declared name without the blanks around it, unless nothing is left. -/
def name? (t : SchemaType) : Option String := (t.declaredName.map Text.trimmed).filter (· ≠ "")

/-- The values; none if the type lists none. -/
def valueList (t : SchemaType) : List Json := t.values.getD []

/-! ## Classes -/

/-- Whether the type is an enumerated one. -/
def isEnumeration (t : SchemaType) : Bool := t.kind = .enumeration

/-- Whether the type is that of lists. -/
def isList (t : SchemaType) : Bool := t.kind = .list

/-- Whether the type is that of objects. -/
def isDict (t : SchemaType) : Bool := t.kind = .dict

/-- Whether the type is open: any of its members. -/
def isUnion (t : SchemaType) : Bool := t.kind = .union

/-- Whether the type is a scalar one. -/
def isScalar (t : SchemaType) : Bool := t.kind.isScalar

/-- Whether the type itself refers to an asset. -/
def isAsset (t : SchemaType) : Bool := t.kind.isAsset

mutual

/-- Whether the type refers to an asset, or is a union with a member that does. -/
def refersToAsset : SchemaType → Bool
  | t@⟨_, _, _, args, _⟩ => if t.isUnion then anyRefersToAsset args else t.isAsset

/-- Whether one of the types refers to an asset. -/
def anyRefersToAsset : List SchemaType → Bool
  | [] => false
  | t :: ts => refersToAsset t || anyRefersToAsset ts

end

/-! ## As text -/

/-- Texts with another one between any two. -/
def joined (separator : String) : List String → String
  | [] => ""
  | [s] => s
  | s :: rest => s ++ separator ++ joined separator rest

mutual

/-- The readable form of a type. -/
def text : SchemaType → String
  | t@⟨_, _, _, args, _⟩ =>
    match t.kind, argTexts args with
    | .list, item :: _ => "List[" ++ item ++ "]"
    | .dict, key :: value :: _ => "Dict[" ++ key ++ ", " ++ value ++ "]"
    | .dict, _ => t.name?.getD "Dict[Any, Any]"
    | .tuple, items => "Tuple[" ++ joined ", " items ++ "]"
    | .union, first :: rest => "(" ++ joined " | " (first :: rest) ++ ")"
    | .enumeration, _ => "Enum[" ++ joined ", " (t.valueList.map Json.render) ++ "]"
    | _, _ => t.name?.getD t.word

/-- The readable forms of types. -/
def argTexts : List SchemaType → List String
  | [] => []
  | t :: ts => text t :: argTexts ts

end

end SchemaType

end PinTypes
