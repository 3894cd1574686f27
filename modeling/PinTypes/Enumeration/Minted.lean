import PinTypes.Digest.Blake3
import PinTypes.Enumeration.KeyIndex
import PinTypes.Identifier
import PinTypes.Text.Lowercase

/-!
# `PinTypes.Enumeration.Minted` — enumerated types made from value lists

A minted type is made at run time from a name and an ordered list of values. What tells two of them
apart is the name and the list of keys; both go into one text, the *mint key*, in which the separators
inside a key are escaped. The *identity* is the name with a digest of the keys behind it.

## Contents
- **Mint keys.** `escapedKey`, `mintKey`.
- **Digests.** `keyBytes`, `fingerprint`.
- **The type.** `MintedEnum`, `MintedEnum.make`; `labels`, `mintKey`, `identity`.
- **Finding a member.** `ordinalForKey`, letter case left out of account.
-/

namespace PinTypes

open PinTypes.Text (lowered)

/-! ## Mint keys -/

/-- A key with a backslash before each backslash and each bar. -/
def escapedKey (key : String) : List Char :=
  key.toList.flatMap fun c => if c = '\\' ∨ c = '|' then ['\\', c] else [c]

/-- Escaped keys with a bar between any two. -/
def joinedKeys : List String → List Char
  | [] => []
  | [k] => escapedKey k
  | k :: ks => escapedKey k ++ '|' :: joinedKeys ks

/-- The name, a colon and the keys of the values, in order. -/
def mintKey (name : String) (values : List Scalar) : String :=
  name ++ String.ofList (':' :: joinedKeys (values.map Scalar.key))

/-! ## Digests -/

/-- The bytes of a text. -/
def utf8 (s : String) : List UInt8 := s.toUTF8.data.toList

/-- The low bytes of a number, least significant first. -/
def littleEndian : Nat → Nat → List UInt8
  | 0, _ => []
  | count + 1, n => (n % 256).toUInt8 :: littleEndian count (n / 256)

/-- The bytes that are hashed: before each key its length, in eight bytes. -/
def keyBytes (keys : List String) : List UInt8 :=
  keys.flatMap fun k => littleEndian 8 (utf8 k).length ++ utf8 k

/-- The first sixteen digits of the digest of the values' keys. -/
def fingerprint (values : List Scalar) : List Char :=
  (Digest.Blake3.hex (Digest.Blake3.digest (keyBytes (values.map Scalar.key)))).take 16

/-! ## The type -/

/-- An enumerated type made from a list of values. -/
structure MintedEnum where
  name : String
  variants : List Scalar
  /-- Positions by key in small letters. -/
  index : KeyIndex
  index_eq : index = .ofKeys (variants.map fun v => lowered v.key)

namespace MintedEnum

/-- The type with that name and those values. -/
def make (name : String) (values : List Scalar) : MintedEnum :=
  ⟨name, values, _, rfl⟩

/-- The labels, in order. -/
def labels (t : MintedEnum) : List String := Identifier.labelsFor t.variants

/-- The text that the type is kept under. -/
def mintKey (t : MintedEnum) : String := PinTypes.mintKey t.name t.variants

/-- The name and the digest of the keys. -/
def identity (t : MintedEnum) : String :=
  t.name ++ String.ofList ('_' :: fingerprint t.variants)

/-- The first member with the key, whatever its letter case. -/
def ordinalForKey (t : MintedEnum) (key : String) : Option Nat := t.index[lowered key]?

@[simp] theorem name_make (name : String) (values : List Scalar) : (make name values).name = name := rfl

@[simp] theorem variants_make (name : String) (values : List Scalar) :
    (make name values).variants = values := rfl

/-- A key is found where its small form first stands among the small forms of the variants' keys. -/
theorem ordinalForKey_eq (t : MintedEnum) (key : String) :
    t.ordinalForKey key = t.variants.findIdx? fun v => lowered v.key == lowered key := by
  rw [ordinalForKey, t.index_eq, KeyIndex.getElem?_ofKeys, List.findIdx?_map]
  rfl

end MintedEnum

end PinTypes
