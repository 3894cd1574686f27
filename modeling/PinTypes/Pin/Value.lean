import PinTypes.Instant.Printer
import PinTypes.Instant.Reader
import PinTypes.Number.Reading
import PinTypes.Pin.Kind
import PinTypes.Text.Lowercase

/-!
# `PinTypes.Pin.Value` — values of pins

A schema's default is loosely typed JSON; a pin wants a value of its kind. Coercion reads what can be
read as such a value and refuses the rest; where a value is needed all the same, the zero value of the
kind stands in. Going out again, every value is plain JSON.

## Contents
- **Values.** `PinValue`, `PinValue.blank`, `PinValue.ordinal?`.
- **Coercion, kind by kind.** `textOf?` … `mediaOf?`.
- **Coercion.** `PinValue.coerce`, `PinValue.initial`.
- **Going out.** `PinValue.toJson`.
-/

namespace PinTypes

open PinTypes.Text (trimmed)

/-- A value of some kind of pin. -/
inductive PinValue where
  | text (s : String)
  | integer (i : Int64)
  | float (x : Double)
  | boolean (b : Bool)
  | textList (items : List String)
  | object (value : Json)
  | dateTime (t : Instant)
  | enumeration (type : EnumType) (ordinal : Nat)
  | media (reference : Option MediaReference)

namespace PinValue

/-- The zero value of a kind. -/
def blank : PinKind → PinValue
  | .text => text ""
  | .integer => integer 0
  | .float => float (.zero false)
  | .boolean => boolean false
  | .textList => textList []
  | .object => object .null
  | .dateTime => dateTime .epoch
  | .enumeration t => enumeration t 0
  | .media _ => media none

/-- The position of an enumerated value. -/
def ordinal? : PinValue → Option Nat
  | enumeration _ ordinal => some ordinal
  | _ => none

/-! ## Coercion, kind by kind -/

/-- A string as it is, the text of any other value; nothing for null. -/
def textOf? : Json → Option String
  | .null => none
  | .string s => some s
  | x => some x.render

/-- A double cut off to a whole number, if 64 signed bits can hold it. -/
def wholePart? : Double → Option Int64
  | .finite x => Number.toInt64? x.truncate
  | _ => none

/-- A whole number, a double cut off to one, or a string that reads as a whole number. -/
def integerOf? : Json → Option Int64
  | .number n => n.int64?.or (wholePart? n.toDouble)
  | .string s => Number.readInt64 (Text.trim s.toList)
  | _ => none

/-- A number, or a string that reads as a finite one. -/
def floatOf? : Json → Option Double
  | .number n => some n.toDouble
  | .string s => (Number.readDouble (Text.trim s.toList)).filter Double.isFinite
  | _ => none

/-- A truth value, or its name in any letter case. -/
def booleanOf? : Json → Option Bool
  | .bool b => some b
  | .string s =>
    let word := Text.loweredAscii (trimmed s)
    if word = "true" then some true else if word = "false" then some false else none
  | _ => none

/-- A string as it is, the text of any other value. -/
def itemText : Json → String
  | .string s => s
  | x => x.render

/-- The texts of the items, or a single string. -/
def textListOf? : Json → Option (List String)
  | .array items => some (items.map itemText)
  | .string s => some [s]
  | _ => none

/-- Anything but null. -/
def objectOf? : Json → Option Json
  | .null => none
  | x => some x

/-- A string that reads as an instant. -/
def dateTimeOf? : Json → Option Instant
  | .string s => Instant.read s.toList
  | _ => none

/-- The address without the blanks around it, unless nothing is left. -/
def addressOf? : Json → Option String
  | .string s => if trimmed s = "" then none else some (trimmed s)
  | _ => none

/-- The text of a string value. -/
def stringOf? : Json → Option String
  | .string s => some s
  | _ => none

/-- An address, or an object with one and perhaps with the identifier of the asset. -/
def mediaOf? (family : MediaKind) : Json → Option MediaReference
  | .object members => do
    let uri ← (Json.member? members "uri").bind addressOf?
    return ⟨family, uri, (Json.member? members "asset_id").bind stringOf?⟩
  | x => (addressOf? x).map fun uri => ⟨family, uri, none⟩

/-! ## Coercion -/

/-- The value of that kind that a JSON value can be read as. -/
def coerce? : PinKind → Json → Option PinValue
  | .text, x => (textOf? x).map text
  | .integer, x => (integerOf? x).map integer
  | .float, x => (floatOf? x).map float
  | .boolean, x => (booleanOf? x).map boolean
  | .textList, x => (textListOf? x).map textList
  | .object, x => (objectOf? x).map object
  | .dateTime, x => (dateTimeOf? x).map dateTime
  | .media family, x => (mediaOf? family x).map fun r => media (some r)
  | .enumeration t, x => some (enumeration t (t.ordinalOf x))

/-- The value of that kind that a JSON value can be read as, or the error that there is none. -/
def coerce (kind : PinKind) (value : Json) : Except Error PinValue :=
  match coerce? kind value with
  | some v => .ok v
  | none => .error (.coercion kind.name value)

/-- The coerced value; the zero value if there is nothing to coerce or it cannot be coerced. -/
def initial (kind : PinKind) (value : Option Json) : PinValue :=
  match value.bind (coerce? kind) with
  | some v => v
  | none => blank kind

/-! ## Going out -/

/-- The members that a media reference is sent as, in order of their names. -/
def mediaMembers (r : MediaReference) : List (String × Json) :=
  let rest := [("type", Json.string r.kind.name), ("uri", Json.string r.uri)]
  match r.assetId with
  | some id => ("asset_id", .string id) :: rest
  | none => rest

/-- The JSON that is sent for a value. -/
def toJson : PinValue → Json
  | text s => .string s
  | integer i => .ofInt64 i
  | float x => .ofDouble x
  | boolean b => .bool b
  | textList items => .array (items.map .string)
  | object value => value
  | dateTime t => .string (String.ofList t.text)
  | enumeration t ordinal =>
    match t.valueAt? ordinal with
    | some s => s.toJson
    | none => .null
  | media none => .null
  | media (some r) => .object (mediaMembers r)

/-- Values of enumerated types are the same as instances, at the same position. -/
def sameEnumeration : PinValue → PinValue → Bool
  | enumeration t i, enumeration u j => t.sameInstance u && i == j
  | _, _ => false

end PinValue

end PinTypes
