import PinTypes.Enumeration.KeyIndex
import PinTypes.Identifier
import PinTypes.Text.Lowercase

/-!
# `PinTypes.Enumeration.Catalogued` — enumerated types known ahead of time

A catalogued type is written out in advance: a name, a group that it is listed under, and its members,
each with a label, the scalar that is sent for it, and perhaps a description. A key is first looked for
as it is; only if no member has it, letter case is left out of account.

## Contents
- **Members.** `Member`.
- **The type.** `CataloguedEnum`, made by `ofMembers` or `ofValues`; `inGroup`.
- **Views.** `variants`, `labels`, `readableLabels`, `description?`, `valueOrLabel`.
- **Finding a member.** `ordinalForKey`.
-/

namespace PinTypes

open PinTypes.Text (lowered)

/-- A member of a catalogued type. -/
structure Member where
  label : String
  value : Scalar
  description : Option String := none
deriving DecidableEq

/-- An enumerated type known ahead of time. -/
structure CataloguedEnum where
  name : String
  group : String
  members : List Member
  /-- Positions by exact key. -/
  index : KeyIndex
  index_eq : index = .ofKeys (members.map (·.value.key))

namespace CataloguedEnum

/-- The group of types that name none. -/
def defaultGroup : String := "Other"

/-- The type with the given members. -/
def ofMembers (name : String) (members : List Member) : CataloguedEnum :=
  ⟨name, defaultGroup, members, _, rfl⟩

/-- The type with the given values, labels made from them. -/
def ofValues (name : String) (values : List Scalar) : CataloguedEnum :=
  ofMembers name ((Identifier.labelsFor values).zipWith (fun label v => { label, value := v }) values)

/-- The type, listed under another group. -/
def inGroup (t : CataloguedEnum) (group : String) : CataloguedEnum := { t with group }

/-! ## Views -/

/-- The scalars that are sent, in order. -/
def variants (t : CataloguedEnum) : List Scalar := t.members.map (·.value)

/-- The labels, in order. -/
def labels (t : CataloguedEnum) : List String := t.members.map (·.label)

/-- The readable forms of the labels, in order. -/
def readableLabels (t : CataloguedEnum) : List String := t.labels.map Identifier.readable

/-- The description of the member at a position, if it has one. -/
def description? (t : CataloguedEnum) (ordinal : Nat) : Option String :=
  t.members[ordinal]?.bind (·.description)

/-- The scalar of the member at a position, failing that its label, failing that the empty string. -/
def valueOrLabel (t : CataloguedEnum) (ordinal : Nat) : Scalar :=
  match t.variants[ordinal]?, t.labels[ordinal]? with
  | some value, _ => value
  | none, some label => .string label
  | none, none => .string ""

/-! ## Finding a member -/

/-- The first member with the key, else the first whose key differs from it in letter case only. -/
def ordinalForKey (t : CataloguedEnum) (key : String) : Option Nat :=
  match t.index[key]? with
  | some ordinal => some ordinal
  | none => t.variants.findIdx? fun v => lowered v.key == lowered key

@[simp] theorem variants_ofMembers (name : String) (members : List Member) :
    (ofMembers name members).variants = members.map (·.value) := rfl

@[simp] theorem labels_ofMembers (name : String) (members : List Member) :
    (ofMembers name members).labels = members.map (·.label) := rfl

/-- Each value has a label, so none is lost when the labels are put beside the values. -/
@[simp] theorem variants_ofValues (name : String) (values : List Scalar) :
    (ofValues name values).variants = values := by
  have hlen : values.length ≤ (Identifier.labelsFor values).length := by simp
  rw [ofValues, variants_ofMembers, List.map_zipWith]
  calc List.zipWith (fun _ v => v) (Identifier.labelsFor values) values
      = ((Identifier.labelsFor values).zip values).map Prod.snd :=
        (List.map_zip_eq_zipWith (f := Prod.snd)).symm
    _ = values := List.map_snd_zip hlen

@[simp] theorem labels_ofValues (name : String) (values : List Scalar) :
    (ofValues name values).labels = Identifier.labelsFor values := by
  have hlen : (Identifier.labelsFor values).length ≤ values.length := by simp
  rw [ofValues, labels_ofMembers, List.map_zipWith]
  calc List.zipWith (fun label _ => label) (Identifier.labelsFor values) values
      = ((Identifier.labelsFor values).zip values).map Prod.fst :=
        (List.map_zip_eq_zipWith (f := Prod.fst)).symm
    _ = Identifier.labelsFor values := List.map_fst_zip hlen

end CataloguedEnum

end PinTypes
