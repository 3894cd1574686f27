import PinTypes.Pin.Help
import PinTypes.Pin.Value

/-!
# `PinTypes.Pin.Basic` — pins

A pin is what the editor shows for one parameter: its kind and default, help texts, tags, and whether it
is visible. Its snapshot is the record that is sent to the frontend; a pin for an enumerated type also
lists its choices there.

## Contents
- **Pins.** `Pin`, `Pin.plain`.
- **Describing.** `rawHelp`, `summarize`, `remark`, `hide`, `tag`.
- **Choices.** `Pin.Choice`, `choicesOf`, `Pin.choices`.
- **Snapshots.** `Pin.Snapshot`, `Pin.snapshot`.
- **As JSON.** The written forms and the decoders of choices and snapshots.
-/

namespace PinTypes

open Json (Writable Readable Draft RecordField field fieldUnless record)

/-- One input of a node. -/
structure Pin where
  name : String
  kind : PinKind
  default : PinValue
  summary : Option String
  remarks : Option String
  visible : Bool
  tags : List String
  /-- Whether help texts are cleaned. -/
  cleansHelp : Bool

namespace Pin

/-- A visible pin without help texts. -/
def plain (name : String) (kind : PinKind) (default : PinValue) : Pin :=
  ⟨name, kind, default, none, none, true, [], true⟩

/-! ## Describing -/

/-- Help texts given from here on are kept as they are. -/
def rawHelp (p : Pin) : Pin := { p with cleansHelp := false }

/-- A help text as the pin keeps it. -/
def help (p : Pin) (text : String) : String := if p.cleansHelp then cleanHelp text else text

/-- The pin with a summary. -/
def summarize (p : Pin) (text : String) : Pin := { p with summary := some (p.help text) }

/-- The pin with remarks. -/
def remark (p : Pin) (text : String) : Pin := { p with remarks := some (p.help text) }

/-- The pin, hidden. -/
def hide (p : Pin) : Pin := { p with visible := false }

/-- The pin with other tags. -/
def tag (p : Pin) (tags : List String) : Pin := { p with tags }

/-! ## Choices -/

/-- One entry of the list that a pin for an enumerated type offers. -/
structure Choice where
  /-- What is sent if the entry is chosen. -/
  value : Json
  label : String
  ordinal : Nat

/-- What the members of a type are called in the list. -/
def choiceLabels : EnumType → List String
  | .catalogued t => t.type.readableLabels
  | .minted t => t.type.labels

/-- The entries for the members of a type. -/
def choicesOf (t : EnumType) : List Choice :=
  (t.variants.zip (choiceLabels t)).zipIdx.map fun ((s, label), ordinal) => ⟨s.toJson, label, ordinal⟩

/-- The entries that the pin offers. -/
def choices (p : Pin) : List Choice :=
  match p.kind.enumType? with
  | some t => choicesOf t
  | none => []

/-! ## Snapshots -/

/-- A pin as it is sent. -/
structure Snapshot where
  name : String
  kind : String
  default : Json
  summary : Option String
  remarks : Option String
  visible : Bool
  tags : List String
  choices : List Choice

/-- The pin as it is sent. -/
def snapshot (p : Pin) : Snapshot :=
  ⟨p.name, p.kind.name, p.default.toJson, p.summary, p.remarks, p.visible, p.tags, p.choices⟩

/-! ## As JSON -/

/-- The fields of a choice, in order of declaration; all are required. -/
def Choice.fields : List (RecordField Choice) := [
  { name := "value", required := true
    read := fun depth x c => return { c with value := ← x.asJson depth } },
  { name := "label", required := true
    read := fun _ x c => return { c with label := ← x.asString } },
  { name := "ordinal", required := true
    read := fun _ x c => return { c with ordinal := ← x.asNatural } }]

instance : Readable Choice := ⟨Draft.asRecord Choice.fields ⟨.null, "", 0⟩⟩

instance : Writable Choice :=
  ⟨fun c => record [
    field "value" c.value,
    field "label" c.label,
    field "ordinal" c.ordinal]⟩

/-- The fields of a snapshot, in order of declaration. Help texts, tags and choices may be missing. -/
def Snapshot.fields : List (RecordField Snapshot) := [
  { name := "name", required := true
    read := fun _ x s => return { s with name := ← x.asString } },
  { name := "kind", required := true
    read := fun _ x s => return { s with kind := ← x.asString } },
  { name := "default", required := true
    read := fun depth x s => return { s with default := ← x.asJson depth } },
  { name := "summary", required := false
    read := fun _ x s => return { s with summary := ← x.asOption Draft.asString } },
  { name := "remarks", required := false
    read := fun _ x s => return { s with remarks := ← x.asOption Draft.asString } },
  { name := "visible", required := true
    read := fun _ x s => return { s with visible := ← x.asBool } },
  { name := "tags", required := false
    read := fun depth x s =>
      return { s with tags := ← x.asList (fun _ => Draft.asString) depth } },
  { name := "options", required := false
    read := fun depth x s =>
      return { s with choices := ← x.asList Readable.ofDraft depth } }]

instance : Readable Snapshot :=
  ⟨Draft.asRecord Snapshot.fields ⟨"", "", .null, none, none, false, [], []⟩⟩

instance : Writable Snapshot :=
  ⟨fun s => record [
    field "name" s.name,
    field "kind" s.kind,
    field "default" s.default,
    fieldUnless s.summary.isNone "summary" s.summary,
    fieldUnless s.remarks.isNone "remarks" s.remarks,
    field "visible" s.visible,
    fieldUnless s.tags.isEmpty "tags" s.tags,
    fieldUnless s.choices.isEmpty "options" s.choices]⟩

end Pin

end PinTypes
