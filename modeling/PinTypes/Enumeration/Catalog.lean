import PinTypes.Enumeration.Basic

/-!
# `PinTypes.Enumeration.Catalog` — the catalog of known types

Types known ahead of time are found by their names, blanks around a name left out of account. A name
belongs to the type that was registered under it first; only merging another catalog in can replace it.

## Contents
- **The catalog.** `Catalog`, `empty`, `ofTypes`.
- **Adding.** `add`, `merge`, `cleared`.
- **Looking up.** `find?`, `findFor?`, `contains`.
- **Views.** `size`, `isEmpty`, `names`, `byGroup`, `labelsOf`, `valuesByName`.
-/

namespace PinTypes

open PinTypes.Text (trimmed)

/-- Types by their names without the blanks around them. The source and the count of instances issued so
    far stamp the next one. -/
structure Catalog where
  source : Nat
  issued : Nat
  entries : Std.TreeMap String (Stamped CataloguedEnum)

namespace Catalog

/-- The catalog without types; instances will carry the number of the source. -/
def empty (source : Nat) : Catalog := ⟨source, 0, ∅⟩

/-! ## Adding -/

/-- Registers a type under its name. A blank name, or one that is taken, is refused. -/
def add (c : Catalog) (t : CataloguedEnum) : Bool × Catalog :=
  let name := trimmed t.name
  if name = "" ∨ name ∈ c.entries then (false, c)
  else
    (true, { c with
      issued := c.issued + 1
      entries := c.entries.insert name ⟨⟨c.source, c.issued⟩, t⟩ })

/-- The catalog with the given types registered in order. -/
def ofTypes (source : Nat) (types : List CataloguedEnum) : Catalog :=
  types.foldl (fun c t => (c.add t).2) (empty source)

/-- The catalog with the entries of another one, which win over its own of the same names. -/
def merge (c other : Catalog) : Catalog :=
  { c with entries := c.entries.insertMany other.entries.toList }

/-- The catalog without its entries. Instances issued later still differ from all before. -/
def cleared (c : Catalog) : Catalog := { c with entries := ∅ }

/-! ## Looking up -/

/-- The type of that name. A blank name has none. -/
def find? (c : Catalog) (declaredName : String) : Option (Stamped CataloguedEnum) :=
  let name := trimmed declaredName
  if name = "" then none else c.entries[name]?

/-- The type of that name, for a schema that also lists values. They are not compared. -/
def findFor? {α : Type} (c : Catalog) (declaredName : String) (_values : List α) :
    Option (Stamped CataloguedEnum) := c.find? declaredName

/-- Whether a type has that name. -/
def contains (c : Catalog) (declaredName : String) : Bool := (c.find? declaredName).isSome

/-! ## Views -/

/-- The number of types. -/
def size (c : Catalog) : Nat := c.entries.size

/-- Whether there are no types. -/
def isEmpty (c : Catalog) : Bool := c.entries.isEmpty

/-- The names, sorted. -/
def names (c : Catalog) : List String := c.entries.keys

/-- Adds a type to the group that it names. -/
def addToGroup (groups : Std.TreeMap String (List (Stamped CataloguedEnum)))
    (t : Stamped CataloguedEnum) : Std.TreeMap String (List (Stamped CataloguedEnum)) :=
  groups.insert t.type.group (groups.getD t.type.group [] ++ [t])

/-- The types by group. -/
def byGroup (c : Catalog) : Std.TreeMap String (List (Stamped CataloguedEnum)) :=
  c.entries.values.foldl addToGroup ∅

/-- The labels of the type of that name; none for an unknown name. -/
def labelsOf (c : Catalog) (declaredName : String) : List String :=
  match c.find? declaredName with
  | some t => t.type.labels
  | none => []

/-- The scalars of the type of that name, by display name. Of members with equal display names the last
    one counts. -/
def valuesByName (c : Catalog) (declaredName : String) : Std.TreeMap String Scalar :=
  match c.find? declaredName with
  | some t => (t.type.readableLabels.zip t.type.variants).foldl (fun m (name, v) => m.insert name v) ∅
  | none => ∅

end Catalog

end PinTypes
