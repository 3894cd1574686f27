import PinTypes.Enumeration.Catalog
import PinTypes.Enumeration.Mint
import PinTypes.Pin.Basic
import PinTypes.SchemaType.Family

/-!
# `PinTypes.Typer` — from schema types to pins

A typer decides what kind of pin a schema type becomes and what the pin starts with. It never fails: a
kind it does not know becomes text, and so does an enumerated type for which there is neither an entry in
the catalog nor a list of values. Types that are made on the way are kept by a mint, which the typer is
given and gives back, so that several typers can share one.

## Contents
- **The typer.** `Typer`, `TypedPin`.
- **Kinds.** `Family.pinKind`, `Typer.enumType`, `Typer.kindFor`, `Typer.kindOf`.
- **Pins.** `Typer.type`, `Typer.typePin`, `Typer.describe`.
-/

namespace PinTypes

/-- The kind of pin for a family of types. -/
def Family.pinKind : Family → PinKind
  | numeric => .float
  | boolean => .boolean
  | text => .text
  | object => .object

/-- What a schema type becomes: a kind of pin, the value it starts with, and whether it may be left
    out. -/
structure TypedPin where
  kind : PinKind
  default : PinValue
  optional : Bool

/-- A catalog to look types up in, and settings. -/
structure Typer where
  catalog : Catalog
  settings : Settings

namespace Typer

/-! ## Kinds -/

/-- The type that an enumerated schema type stands for: the catalogued one of its name, or one made from
    its values. -/
def enumType (t : Typer) (pin : Option String) (s : SchemaType) (m : Mint) : Option EnumType × Mint :=
  match s.name?.bind (t.catalog.findFor? · s.valueList) with
  | some known => (some (.catalogued known), m)
  | none =>
    let (made, m) := m.obtain s.name? s.valueList (t.settings.fallbackName pin)
    (made.map .minted, m)

/-- The kind of pin for a schema type, given the name of the pin if it has one. -/
def kindFor (t : Typer) (pin : Option String) (s : SchemaType) (m : Mint) : PinKind × Mint :=
  match s.kind with
  | .text => (.text, m)
  | .integer => (.integer, m)
  | .number => (.float, m)
  | .boolean => (.boolean, m)
  | .list => (.textList, m)
  | .dict => (.object, m)
  | .dateTime => (.dateTime, m)
  | .media family => (.media family, m)
  | .union => (s.family.pinKind, m)
  | .enumeration =>
    match t.enumType pin s m with
    | (some e, m) => (.enumeration e, m)
    | (none, m) => (.text, m)
  | .tuple | .folder | .modelReference | .unknown => (.text, m)

/-- The kind of pin for a schema type. -/
def kindOf (t : Typer) (s : SchemaType) (m : Mint) : PinKind × Mint := t.kindFor none s m

/-! ## Pins -/

/-- Kind and default for a schema type, given the name of the pin if it has one. -/
def typeFor (t : Typer) (pin : Option String) (s : SchemaType) (default : Option Json) (m : Mint) :
    TypedPin × Mint :=
  let (kind, m) := t.kindFor pin s m
  (⟨kind, PinValue.initial kind default, s.optional⟩, m)

/-- Kind and default for a schema type. -/
def type (t : Typer) (s : SchemaType) (default : Option Json) (m : Mint) : TypedPin × Mint :=
  t.typeFor none s default m

/-- Kind and default for the schema type of a named pin. An enumerated type without a name of its own is
    called after the pin. -/
def typePin (t : Typer) (pin : String) (s : SchemaType) (default : Option Json) (m : Mint) :
    TypedPin × Mint :=
  t.typeFor (some pin) s default m

/-- The pin of that name. -/
def describe (t : Typer) (pin : String) (s : SchemaType) (default : Option Json) (m : Mint) :
    Pin × Mint :=
  let (typed, m) := t.typePin pin s default m
  ({ Pin.plain pin typed.kind typed.default with cleansHelp := t.settings.cleansHelp }, m)

/-- What a typer makes of a schema type is told by the kind. -/
theorem typeFor_eq (t : Typer) (pin : Option String) (s : SchemaType) (default : Option Json)
    (m : Mint) :
    t.typeFor pin s default m =
      (⟨(t.kindFor pin s m).1, PinValue.initial (t.kindFor pin s m).1 default, s.optional⟩,
        (t.kindFor pin s m).2) := by
  rw [typeFor]

theorem describe_eq (t : Typer) (pin : String) (s : SchemaType) (default : Option Json) (m : Mint) :
    t.describe pin s default m =
      ({ Pin.plain pin (t.kindFor (some pin) s m).1
          (PinValue.initial (t.kindFor (some pin) s m).1 default) with
        cleansHelp := t.settings.cleansHelp }, (t.kindFor (some pin) s m).2) := by
  rw [describe, typePin, typeFor_eq]

end Typer

end PinTypes
