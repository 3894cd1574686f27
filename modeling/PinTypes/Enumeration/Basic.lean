import PinTypes.Enumeration.Catalogued
import PinTypes.Enumeration.Minted

/-!
# `PinTypes.Enumeration.Basic` — enumerated types as pins hold them

A pin holds one *instance* of an enumerated type, catalogued or minted. Instances carry a stamp, by which
they are told apart even if everything else about them is equal: the number of the source that made them
and a count within that source.

## Contents
- **Instances.** `Stamp`, `Stamped`.
- **The type.** `EnumType` with `identity`, `variants`, `labels`, `size`, `ordinalForKey`.
- **Same instance.** `EnumType.sameInstance`.
-/

namespace PinTypes

/-! ## Instances -/

/-- Which instance of which source. -/
structure Stamp where
  source : Nat
  serial : Nat
deriving DecidableEq, Repr

/-- An instance of a type. -/
structure Stamped (α : Type) where
  stamp : Stamp
  type : α

/-! ## The type -/

/-- An instance of an enumerated type. -/
inductive EnumType where
  | catalogued (type : Stamped CataloguedEnum)
  | minted (type : Stamped MintedEnum)

namespace EnumType

/-- Whether the type was made at run time. -/
def isMinted : EnumType → Bool
  | minted _ => true
  | catalogued _ => false

/-- The declared name, or the identity of a minted type. -/
def identity : EnumType → String
  | catalogued t => t.type.name
  | minted t => t.type.identity

/-- The scalars that are sent, in order. -/
def variants : EnumType → List Scalar
  | catalogued t => t.type.variants
  | minted t => t.type.variants

/-- The labels, in order. -/
def labels : EnumType → List String
  | catalogued t => t.type.labels
  | minted t => t.type.labels

/-- The number of members. -/
def size (t : EnumType) : Nat := t.variants.length

/-- The member with a key, by the rule of the type. -/
def ordinalForKey : EnumType → String → Option Nat
  | catalogued t, key => t.type.ordinalForKey key
  | minted t, key => t.type.ordinalForKey key

/-! ## Same instance -/

/-- Whether two are the same instance. -/
def sameInstance : EnumType → EnumType → Bool
  | catalogued t, catalogued u => t.stamp == u.stamp
  | minted t, minted u => t.stamp == u.stamp
  | _, _ => false

@[simp] theorem sameInstance_self (t : EnumType) : t.sameInstance t = true := by
  cases t <;> simp [sameInstance]

end EnumType

end PinTypes
