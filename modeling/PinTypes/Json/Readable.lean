import PinTypes.Json.Draft

/-!
# `PinTypes.Json.Readable` — from JSON to the types of the library

A decoder takes the draft of a text and how many more levels of nesting are allowed. It reports the first
problem, front to back: the text is `malformed`, or it is well formed but a `mismatch` with the type. A
record may be written as an object, where unknown members are passed over, or as an array that gives its
fields by position.

## Contents
- **Problems.** `Fault`, `Draft.misfit`.
- **Plain values.** `Draft.asString`, `asBool`, `asOption`, `asList`, `asNatural`, `asJson`.
- **Records.** `RecordField`, `readPositions`, `readMembers`, `Draft.asRecord`.
- **Whole texts and values.** `Readable`, `Readable.ofText`, `Readable.ofJson`.
-/

namespace PinTypes.Json

/-! ## Problems -/

/-- Why something could not be decoded. -/
inductive Fault where
  /-- The text is no JSON, or is nested too deep. -/
  | malformed
  /-- A value has the wrong type, or a field is missing or given twice. -/
  | mismatch
deriving DecidableEq, Repr

/-- The problem with a value where one of another type is wanted: a token is read to its end first. -/
def Draft.misfit : Draft → Fault
  | .fault | .number none | .text none => .malformed
  | _ => .mismatch

/-! ## Plain values -/

/-- A string. -/
def Draft.asString : Draft → Except Fault String
  | .text (some s) => .ok s
  | x => .error x.misfit

/-- A truth value. -/
def Draft.asBool : Draft → Except Fault Bool
  | .bool b => .ok b
  | x => .error x.misfit

/-- A whole number that is not negative. -/
def Draft.asNatural : Draft → Except Fault Nat
  | .number (some (.integer n _)) => if 0 ≤ n then .ok n.toNat else .error .mismatch
  | x => .error x.misfit

/-- Null for nothing, or a value. -/
def Draft.asOption {α : Type} (read : Draft → Except Fault α) : Draft → Except Fault (Option α)
  | .null => .ok none
  | x => (read x).map some

/-- A list; items have one level of nesting less than the list. -/
def Draft.asList {α : Type} (read : Nat → Draft → Except Fault α) :
    Nat → Draft → Except Fault (List α)
  | 0, .array _ _ => .error .malformed
  | depth + 1, .array items closed => do
    let found ← items.mapM (read depth)
    if closed then .ok found else .error .malformed
  | _, x => .error x.misfit

mutual

/-- Any value. -/
def Draft.asJson (depth : Nat) : Draft → Except Fault Json
  | .null => .ok .null
  | .bool b => .ok (.bool b)
  | .number (some n) => .ok (.number n)
  | .text (some s) => .ok (.string s)
  | .array items true =>
    match depth with
    | 0 => .error .malformed
    | depth + 1 => (Draft.asItems depth items).map .array
  | .object members true =>
    match depth with
    | 0 => .error .malformed
    | depth + 1 => (Draft.asMembers depth members).map .object
  | _ => .error .malformed

/-- Any values. -/
def Draft.asItems (depth : Nat) : List Draft → Except Fault (List Json)
  | [] => .ok []
  | x :: xs => do
    let item ← Draft.asJson depth x
    let items ← Draft.asItems depth xs
    return item :: items

/-- Any members, in order of their names; of members of one name the last is kept. -/
def Draft.asMembers (depth : Nat) : List (Option String × Draft) → Except Fault (List (String × Json))
  | [] => .ok []
  | (some name, x) :: ms => do
    let value ← Draft.asJson depth x
    let members ← Draft.asMembers depth ms
    return place name value members
  | (none, _) :: _ => .error .malformed

end

/-! ## Records -/

/-- A field of a record that is built up in values of type `σ`. -/
structure RecordField (σ : Type) where
  name : String
  /-- Whether a record without the field is refused. -/
  required : Bool
  /-- Decodes the field's value, nested at most so deep, and sets it. -/
  read : Nat → Draft → σ → Except Fault σ

/-- Reads fields by position. Missing ones at the end keep their initial value unless they are required. -/
def readPositions {σ : Type} (depth : Nat) (closed : Bool) :
    List (RecordField σ) → List Draft → σ → Except Fault σ
  | [], items, s => if items.isEmpty && closed then .ok s else .error .malformed
  | f :: fs, x :: xs, s => do
    let s ← f.read depth x s
    readPositions depth closed fs xs s
  | f :: fs, [], s =>
    if !closed then .error .malformed
    else if f.required then .error .mismatch
    else readPositions depth closed fs [] s

/-- Reads fields by name. A second member of one field is refused before its value is looked at. -/
def readMembers {σ : Type} (fields : List (RecordField σ)) (depth : Nat) (closed : Bool) (seen : List String) :
    List (Option String × Draft) → σ → Except Fault σ
  | [], s =>
    if !closed then .error .malformed
    else if fields.all (fun f => !f.required || seen.contains f.name) then .ok s
    else .error .mismatch
  | (none, _) :: _, _ => .error .malformed
  | (some name, x) :: ms, s =>
    match fields.find? (·.name == name) with
    | none => readMembers fields depth closed seen ms s
    | some f =>
      if seen.contains name then .error .mismatch
      else do
        let s ← f.read depth x s
        readMembers fields depth closed (name :: seen) ms s

/-- A record with the given fields, in order of declaration, starting from initial values. -/
def Draft.asRecord {σ : Type} (fields : List (RecordField σ)) (initial : σ) :
    Nat → Draft → Except Fault σ
  | 0, .array _ _ => .error .malformed
  | 0, .object _ _ => .error .malformed
  | depth + 1, .array items closed => readPositions depth closed fields items initial
  | depth + 1, .object members closed => readMembers fields depth closed [] members initial
  | _, x => .error x.misfit

/-! ## Whole texts and values -/

/-- Types that can be decoded. -/
class Readable (α : Type) where
  /-- Decodes a draft that may be nested at most so deep. -/
  ofDraft : Nat → Draft → Except Fault α

/-- How deep arrays and objects may be nested in a text. -/
def maxDepth : Nat := 127

/-- Decodes a text; only blanks may stand behind the value. -/
def Readable.ofText {α : Type} [Readable α] (s : String) : Except Fault α :=
  let (x, ended) := Draft.ofText s
  match ofDraft maxDepth x with
  | .ok a => if ended then .ok a else .error .malformed
  | .error e => .error e

/-- Decodes a value, however deep it is nested. A value is never malformed. -/
def Readable.ofJson {α : Type} [Readable α] (x : Json) : Except Fault α :=
  (ofDraft x.depth (Draft.ofJson x)).mapError fun _ => .mismatch

instance : Readable Json := ⟨Draft.asJson⟩

end PinTypes.Json
