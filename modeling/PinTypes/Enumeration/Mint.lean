import PinTypes.Enumeration.Basic
import PinTypes.Error
import PinTypes.Scalar.Exchange
import PinTypes.Settings

/-!
# `PinTypes.Enumeration.Mint` — the mint

The mint makes enumerated types from value lists and keeps every type it has made. A name and a list of
keys that were seen before give the same instance again; nothing is ever dropped.

## Contents
- **The mint.** `Mint`, `Mint.named`, `Mint.new`.
- **Names.** `Mint.typeName`.
- **Minting.** `Mint.obtain`, `Mint.tryObtain`.
- **Views.** `isOwn`, `find?`, `size`, `isEmpty`, `stats`, `defaultOrdinal`.
-/

namespace PinTypes

/-- The types made so far, by mint key, and how many were ever made. The source stamps the next one. -/
structure Mint where
  source : Nat
  defaultName : String
  made : Nat
  types : Std.TreeMap String (Stamped MintedEnum)

namespace Mint

/-- A mint that has made nothing yet, with a name for types that have no other. -/
def named (source : Nat) (defaultName : String) : Mint :=
  let name := Identifier.ofText defaultName
  ⟨source, if name = "" then ({} : Settings).defaultTypeName else name, 0, ∅⟩

/-- A mint that has made nothing yet. -/
def new (source : Nat) (settings : Settings) : Mint := named source settings.defaultTypeName

/-! ## Names -/

/-- The name of a type: the declared one unless it is blank, else the fallback, made an identifier. If
    nothing is left of it, the default name of the mint. -/
def typeName (m : Mint) (declared : Option String) (fallback : String) : String :=
  let hint := (declared.filter (!Text.isBlankText ·)).getD fallback
  let name := Identifier.ofText hint
  if name = "" then m.defaultName else name

/-! ## Minting -/

/-- The type with those scalars under that name, made on first sight. -/
def obtainNamed (m : Mint) (name : String) (variants : List Scalar) : Stamped MintedEnum × Mint :=
  let key := mintKey name variants
  match m.types[key]? with
  | some t => (t, m)
  | none =>
    let t : Stamped MintedEnum := ⟨⟨m.source, m.made⟩, .make name variants⟩
    (t, { m with made := m.made + 1, types := m.types.insert key t })

/-- The type for a list of values. No values, no type. -/
def obtain {α : Type} [ToScalar α] (m : Mint) (declared : Option String) (values : List α)
    (fallback : String) : Option (Stamped MintedEnum) × Mint :=
  if values.isEmpty then (none, m)
  else
    let (t, m') := m.obtainNamed (m.typeName declared fallback) (values.map toScalar)
    (some t, m')

/-- The type for a list of values, or the error that there are none. -/
def tryObtain {α : Type} [ToScalar α] (m : Mint) (declared : Option String) (values : List α)
    (fallback : String) : Except Error (Stamped MintedEnum) × Mint :=
  match m.obtain declared values fallback with
  | (some t, m') => (.ok t, m')
  | (none, m') => (.error (.emptyValues (m.typeName declared fallback)), m')

/-! ## Views -/

/-- Whether the instance is the one that the mint keeps under its mint key. -/
def isOwn (m : Mint) (t : Stamped MintedEnum) : Bool :=
  m.types[t.type.mintKey]?.any (·.stamp == t.stamp)

/-- The type with that identity. -/
def find? (m : Mint) (identity : String) : Option (Stamped MintedEnum) :=
  m.types.values.find? (·.type.identity == identity)

/-- The number of types kept. -/
def size (m : Mint) : Nat := m.types.size

/-- Whether nothing was made yet. -/
def isEmpty (m : Mint) : Bool := m.types.isEmpty

/-- How many types are kept and how many were ever made. -/
structure Stats where
  kept : Nat
  made : Nat
deriving DecidableEq, Repr

/-- The counts of the mint. -/
def stats (m : Mint) : Stats := ⟨m.size, m.made⟩

/-- The position a minted type starts with: the first one. -/
def defaultOrdinal (_t : MintedEnum) : Nat := 0

end Mint

end PinTypes
