import PinTypes.SchemaType.Basic

/-!
# `PinTypes.SchemaType.Family` — narrowing a union

A pin cannot offer any of several types, so a union is narrowed to one family. A word in its declared name
decides if there is one; otherwise the kinds that occur in its members do, however deep.

## Contents
- **Families.** `Family`.
- **Hints.** `Family.ofHint`.
- **Occurring kinds.** `SchemaType.mentions`.
- **Narrowing.** `Family.ofMembers`, `SchemaType.family`.
-/

namespace PinTypes

/-- What a union is narrowed to. -/
inductive Family where
  | numeric
  | boolean
  | text
  | object
deriving DecidableEq, Repr

/-! ## Hints -/

/-- Whether a word occurs in a text. -/
def occursIn (word : List Char) : List Char → Bool
  | [] => word.isEmpty
  | c :: cs => word.isPrefixOf (c :: cs) || occursIn word cs

/-- The family that a name gives away, letter case left out of account. -/
def Family.ofHint (name : String) : Option Family :=
  let hint := Text.lower name.toList
  let holds (word : String) : Bool := occursIn word.toList hint
  if holds "number" || holds "float" || holds "int" then some numeric
  else if holds "bool" then some boolean
  else if holds "str" || holds "text" then some text
  else none

/-! ## Occurring kinds -/

mutual

/-- Whether a kind of that class occurs in the type, at any depth. -/
def SchemaType.mentions (p : Kind → Bool) : SchemaType → Bool
  | t@⟨_, _, _, args, _⟩ => p t.kind || SchemaType.anyMentions p args

/-- Whether a kind of that class occurs in one of the types. -/
def SchemaType.anyMentions (p : Kind → Bool) : List SchemaType → Bool
  | [] => false
  | t :: ts => SchemaType.mentions p t || SchemaType.anyMentions p ts

end

/-! ## Narrowing -/

/-- Whether no kind of a scalar family occurs in the type. -/
def SchemaType.isForeign (t : SchemaType) : Bool :=
  !t.mentions Kind.isNumeric && !t.mentions Kind.isBoolean && !t.mentions Kind.isTextual

/-- The family of a union with these members: texts alone, numbers without texts, or truth values alone;
    an object in all other cases. -/
def Family.ofMembers (members : List SchemaType) : Family :=
  let numbers := members.any (·.mentions Kind.isNumeric)
  let truths := members.any (·.mentions Kind.isBoolean)
  let texts := members.any (·.mentions Kind.isTextual)
  let others := members.any (·.isForeign)
  if texts then if numbers || truths || others then object else text
  else if numbers then numeric
  else if truths && !others then boolean
  else object

/-- The family that a union is narrowed to. -/
def SchemaType.family (t : SchemaType) : Family :=
  match t.name?.bind Family.ofHint with
  | some f => f
  | none => Family.ofMembers t.args

end PinTypes
