import PinTypes.Json.Readable
import PinTypes.Json.Writable

/-!
# `PinTypes.Media` — references to media

Images, sounds, films and documents are not held in a pin but referred to.

## Contents
- **Families.** `MediaKind`, `MediaKind.name`, `MediaKind.ofName`.
- **References.** `MediaReference`.
- **As JSON.** The written form and the decoder of both.
-/

namespace PinTypes

open Json (Writable Readable Draft Fault RecordField field fieldUnless record written)

/-- A family of media. -/
inductive MediaKind where
  | image
  | audio
  | video
  | document
deriving DecidableEq, Repr

namespace MediaKind

/-- The name in small letters. -/
def name : MediaKind → String
  | image => "image"
  | audio => "audio"
  | video => "video"
  | document => "document"

/-- The family of that name. -/
def ofName : String → Option MediaKind
  | "image" => some image
  | "audio" => some audio
  | "video" => some video
  | "document" => some document
  | _ => none

@[simp] theorem ofName_name (k : MediaKind) : ofName k.name = some k := by
  cases k <;> rfl

/-- The family of that name; another name is a mismatch. -/
def named (name : String) : Except Fault MediaKind :=
  match ofName name with
  | some k => .ok k
  | none => .error .mismatch

/-- A name, or an object with the name as its only member and null for its value. No other token can
    start a family. -/
def ofDraft : Nat → Draft → Except Fault MediaKind
  | _, .text (some s) => named s
  | _ + 1, .object ((some s, value) :: rest) closed =>
    match named s, value, rest, closed with
    | .ok k, .null, [], true => .ok k
    | .ok _, .null, _, _ => .error .malformed
    | .ok _, x, _, _ => .error x.misfit
    | .error e, _, _, _ => .error e
  | _, _ => .error .malformed

instance : Readable MediaKind := ⟨ofDraft⟩

instance : Writable MediaKind := ⟨fun k => .string k.name⟩

end MediaKind

/-- Where a medium is found. -/
structure MediaReference where
  kind : MediaKind
  uri : String
  assetId : Option String := none
deriving DecidableEq

namespace MediaReference

/-- The fields, in order of declaration. The identifier of the asset may be missing. -/
def fields : List (RecordField MediaReference) := [
  { name := "kind", required := true
    read := fun depth x r => return { r with kind := ← MediaKind.ofDraft depth x } },
  { name := "uri", required := true
    read := fun _ x r => return { r with uri := ← x.asString } },
  { name := "asset_id", required := false
    read := fun _ x r => return { r with assetId := ← x.asOption Draft.asString } }]

instance : Readable MediaReference := ⟨Draft.asRecord fields ⟨.image, "", none⟩⟩

instance : Writable MediaReference :=
  ⟨fun r => record [
    field "kind" r.kind,
    field "uri" r.uri,
    fieldUnless r.assetId.isNone "asset_id" r.assetId]⟩

end MediaReference

end PinTypes
