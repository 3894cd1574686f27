import PinTypes.Proofs.Json.Reading
import PinTypes.Proofs.Scalar.Exchange
import PinTypes.Pin.Basic
import PinTypes.SchemaType.Record
import PinTypes.Settings

/-!
# `PinTypes.Proofs.Records` — records that come back

What is written as a JSON value is read again as it was: references, settings, snapshots of pins with
their choices, and the types of a schema, however deep they are nested. Nothing is asked of them but what
their storage ensures: the JSON values inside are in order, and an ordinal fits into 64 bits. Of scalars
all come back but the doubles that are not finite, which are written as null.

For each record `knownFrom` is the record as far as the members of some names tell it. Each field is shown
to be restored on its own; the rest follows from `Restores.reads`. For the types of a schema there is an
induction on top of it, over the tree.

## Contents
- **References and settings.** `MediaKind.reads`, `MediaReference.restores`, `Settings.restores`.
- **Choices and snapshots.** `Choice.WellFormed`, `Choice.restores`, `Snapshot.WellFormed`,
  `Snapshot.restores`.
- **Types.** `SchemaType.WellFormed`, `SchemaType.restores`, `depth_arg`, `SchemaType.reads`.
- **Scalars.** `Scalar.ofJson_toValue_eq_iff`.
- **Main result.** `ofJson_toValue`.
-/

namespace PinTypes

open Json (Writable Readable Draft Fault RecordField field fieldUnless record written Reads FieldRestored
  Restores reads_string reads_bool reads_natural reads_option reads_list reads_json known_of_unless
  forall_mem_field forall_mem_fieldUnless)

/-! ## References and settings -/

namespace MediaKind

theorem reads (k : MediaKind) : Reads ofDraft (written k).canonical k := by
  intro depth _
  show named k.name = .ok k
  unfold named
  rw [ofName_name]

end MediaKind

namespace MediaReference

/-- The reference as far as it is known from the members of the given names. -/
def knownFrom (r : MediaReference) (seen : List String) : MediaReference where
  kind := if "kind" ∈ seen then r.kind else .image
  uri := if "uri" ∈ seen then r.uri else ""
  assetId := if "asset_id" ∈ seen then r.assetId else none

theorem restores (r : MediaReference) : Restores fields r.knownFrom [
    field "kind" r.kind,
    field "uri" r.uri,
    fieldUnless r.assetId.isNone "asset_id" r.assetId] r where
  distinct := by decide
  restored := by
    refine .cons (.given ?_) (.cons (.given ?_) (.cons (.option rfl ?_) .nil))
    · intro seen
      exact (MediaKind.reads r.kind).sets (by simp [knownFrom])
    · intro seen
      exact (reads_string r.uri).sets (by simp [knownFrom])
    · intro a ha seen
      exact (reads_option (reads_string a) nofun).sets (by simp [knownFrom, ha])
  complete := by
    intro seen h
    simp only [List.flatten_cons, List.flatten_nil, List.append_nil, List.forall_mem_append,
      forall_mem_field, forall_mem_fieldUnless] at h
    obtain ⟨hkind, huri, hassetId⟩ := h
    unfold knownFrom
    rw [if_pos hkind, if_pos huri, known_of_unless hassetId Option.isNone_iff_eq_none.mp]

end MediaReference

namespace Settings

/-- The settings as far as they are known from the members of the given names. -/
def knownFrom (s : Settings) (seen : List String) : Settings where
  defaultTypeName := if "default_enum_name" ∈ seen then s.defaultTypeName else "DynamicEnum"
  fallbackStem := if "enum_fallback_prefix" ∈ seen then s.fallbackStem else "Enum"
  cleansHelp := if "clean_descriptions" ∈ seen then s.cleansHelp else true

theorem restores (s : Settings) : Restores fields s.knownFrom [
    field "default_enum_name" s.defaultTypeName,
    field "enum_fallback_prefix" s.fallbackStem,
    field "clean_descriptions" s.cleansHelp] s where
  distinct := by decide
  restored := by
    refine .cons (.given ?_) (.cons (.given ?_) (.cons (.given ?_) .nil))
    · intro seen
      exact (reads_string s.defaultTypeName).sets (by simp [knownFrom])
    · intro seen
      exact (reads_string s.fallbackStem).sets (by simp [knownFrom])
    · intro seen
      exact (reads_bool s.cleansHelp).sets (by simp [knownFrom])
  complete := by
    intro seen h
    simp only [List.flatten_cons, List.flatten_nil, List.append_nil, List.forall_mem_append,
      forall_mem_field] at h
    obtain ⟨hname, hstem, hclean⟩ := h
    unfold knownFrom
    rw [if_pos hname, if_pos hstem, if_pos hclean]

end Settings

/-! ## Choices and snapshots -/

namespace Pin

/-- A choice as it can be stored: the value is in order, and the ordinal has 64 bits. -/
structure Choice.WellFormed (c : Choice) : Prop where
  value : c.value.InOrder
  ordinal : c.ordinal < 2 ^ 64

/-- The choice as far as it is known from the members of the given names. -/
def Choice.knownFrom (c : Choice) (seen : List String) : Choice where
  value := if "value" ∈ seen then c.value else .null
  label := if "label" ∈ seen then c.label else ""
  ordinal := if "ordinal" ∈ seen then c.ordinal else 0

theorem Choice.restores {c : Choice} (h : c.WellFormed) : Restores fields c.knownFrom [
    field "value" c.value,
    field "label" c.label,
    field "ordinal" c.ordinal] c where
  distinct := by decide
  restored := by
    refine .cons (.given ?_) (.cons (.given ?_) (.cons (.given ?_) .nil))
    · intro seen
      exact (reads_json h.value).sets (by simp [knownFrom])
    · intro seen
      exact (reads_string c.label).sets (by simp [knownFrom])
    · intro seen
      exact (reads_natural h.ordinal).sets (by simp [knownFrom])
  complete := by
    intro seen h
    simp only [List.flatten_cons, List.flatten_nil, List.append_nil, List.forall_mem_append,
      forall_mem_field] at h
    obtain ⟨hvalue, hlabel, hordinal⟩ := h
    unfold knownFrom
    rw [if_pos hvalue, if_pos hlabel, if_pos hordinal]

theorem Choice.reads {c : Choice} (h : c.WellFormed) :
    Reads Readable.ofDraft (written c).canonical c :=
  (Choice.restores h).reads

/-- A snapshot as it can be stored. -/
structure Snapshot.WellFormed (s : Snapshot) : Prop where
  default : s.default.InOrder
  choices : ∀ c ∈ s.choices, c.WellFormed

/-- The snapshot as far as it is known from the members of the given names. -/
def Snapshot.knownFrom (s : Snapshot) (seen : List String) : Snapshot where
  name := if "name" ∈ seen then s.name else ""
  kind := if "kind" ∈ seen then s.kind else ""
  default := if "default" ∈ seen then s.default else .null
  summary := if "summary" ∈ seen then s.summary else none
  remarks := if "remarks" ∈ seen then s.remarks else none
  visible := if "visible" ∈ seen then s.visible else false
  tags := if "tags" ∈ seen then s.tags else []
  choices := if "options" ∈ seen then s.choices else []

theorem Snapshot.restores {s : Snapshot} (h : s.WellFormed) : Restores fields s.knownFrom [
    field "name" s.name,
    field "kind" s.kind,
    field "default" s.default,
    fieldUnless s.summary.isNone "summary" s.summary,
    fieldUnless s.remarks.isNone "remarks" s.remarks,
    field "visible" s.visible,
    fieldUnless s.tags.isEmpty "tags" s.tags,
    fieldUnless s.choices.isEmpty "options" s.choices] s where
  distinct := by decide
  restored := by
    refine .cons (.given ?_) (.cons (.given ?_) (.cons (.given ?_) (.cons (.option rfl ?_)
      (.cons (.option rfl ?_) (.cons (.given ?_) (.cons (.unless rfl ?_) (.cons (.unless rfl ?_) .nil)))))))
    · intro seen
      exact (reads_string s.name).sets (by simp [knownFrom])
    · intro seen
      exact (reads_string s.kind).sets (by simp [knownFrom])
    · intro seen
      exact (reads_json h.default).sets (by simp [knownFrom])
    · intro text htext seen
      exact (reads_option (reads_string text) nofun).sets (by simp [knownFrom, htext])
    · intro text htext seen
      exact (reads_option (reads_string text) nofun).sets (by simp [knownFrom, htext])
    · intro seen
      exact (reads_bool s.visible).sets (by simp [knownFrom])
    · intro _ seen
      exact (reads_list fun tag _ => reads_string tag).sets (by simp [knownFrom])
    · intro _ seen
      exact (reads_list fun c hc => Choice.reads (h.choices c hc)).sets (by simp [knownFrom])
  complete := by
    intro seen h
    simp only [List.flatten_cons, List.flatten_nil, List.append_nil, List.forall_mem_append,
      forall_mem_field, forall_mem_fieldUnless] at h
    obtain ⟨hname, hkind, hdefault, hsummary, hremarks, hvisible, htags, hchoices⟩ := h
    unfold knownFrom
    rw [if_pos hname, if_pos hkind, if_pos hdefault, if_pos hvisible,
      known_of_unless hsummary Option.isNone_iff_eq_none.mp,
      known_of_unless hremarks Option.isNone_iff_eq_none.mp,
      known_of_unless htags List.isEmpty_iff.mp, known_of_unless hchoices List.isEmpty_iff.mp]

theorem Snapshot.reads {s : Snapshot} (h : s.WellFormed) :
    Reads Readable.ofDraft (written s).canonical s :=
  (Snapshot.restores h).reads

end Pin

/-! ## Types -/

namespace SchemaType

/-- A type as it can be stored: the values that it lists are in order, and so are those of the types it
    is built from. -/
inductive WellFormed : SchemaType → Prop
  | intro {t : SchemaType} (values : ∀ xs, t.values = some xs → ∀ x ∈ xs, x.InOrder)
      (args : ∀ u ∈ t.args, WellFormed u) : WellFormed t

theorem WellFormed.values {t : SchemaType} (h : t.WellFormed) :
    ∀ xs, t.values = some xs → ∀ x ∈ xs, x.InOrder := by
  cases h with
  | intro hvalues _ => exact hvalues

theorem WellFormed.args {t : SchemaType} (h : t.WellFormed) : ∀ u ∈ t.args, u.WellFormed := by
  cases h with
  | intro _ hargs => exact hargs

/-- The type as far as it is known from the members of the given names. -/
def knownFrom (t : SchemaType) (seen : List String) : SchemaType where
  word := if "type" ∈ seen then t.word else ""
  declaredName := if "type_name" ∈ seen then t.declaredName else none
  values := if "values" ∈ seen then t.values else none
  args := if "type_args" ∈ seen then t.args else []
  optional := if "optional" ∈ seen then t.optional else false

/-- The members that are written for a type. -/
def parts (t : SchemaType) : List (List (String × Json)) := [
  field "type" t.word,
  fieldUnless t.declaredName.isNone "type_name" t.declaredName,
  fieldUnless t.values.isNone "values" t.values,
  fieldUnless t.args.isEmpty "type_args" t.args,
  field "optional" t.optional]

theorem writtenForms_eq_map (ts : List SchemaType) : writtenForms ts = ts.map writtenForm := by
  induction ts with
  | nil => rfl
  | cons t ts ih => rw [writtenForms, ih, List.map_cons]

theorem written_eq (t : SchemaType) : written t = record t.parts := by
  obtain ⟨word, declaredName, values, args, optional⟩ := t
  show writtenForm _ = _
  rw [writtenForm, writtenForms_eq_map]
  rfl

/-- A type is restored, however the list of its arguments is read, if only that is read rightly. -/
theorem restores {t : SchemaType} {readArgs : Nat → Draft → Except Fault (List SchemaType)}
    (hvalues : ∀ xs, t.values = some xs → ∀ x ∈ xs, x.InOrder)
    (hargs : Reads readArgs (written t.args).canonical t.args) :
    Restores (fields readArgs) t.knownFrom t.parts t where
  distinct := by
    show ["type", "type_name", "values", "type_args", "optional"].Nodup
    decide
  restored := by
    refine .cons (.given ?_) (.cons (.option rfl ?_) (.cons (.option rfl ?_)
      (.cons (.unless rfl ?_) (.cons (.given ?_) .nil))))
    · intro seen
      exact (reads_string t.word).sets (by simp [knownFrom])
    · intro name hname seen
      exact (reads_option (reads_string name) nofun).sets (by simp [knownFrom, hname])
    · intro xs hxs seen
      have hread := reads_list fun x hx => reads_json (hvalues xs hxs x hx)
      exact (reads_option hread nofun).sets (by simp [knownFrom, hxs])
    · intro _ seen
      exact hargs.sets (by simp [knownFrom])
    · intro seen
      exact (reads_bool t.optional).sets (by simp [knownFrom])
  complete := by
    intro seen h
    unfold parts at h
    simp only [List.flatten_cons, List.flatten_nil, List.append_nil, List.forall_mem_append,
      forall_mem_field, forall_mem_fieldUnless] at h
    obtain ⟨hword, hname, hvalues, hargs, hoptional⟩ := h
    obtain ⟨word, declaredName, values, args, optional⟩ := t
    unfold knownFrom
    rw [if_pos hword, if_pos hoptional, known_of_unless hname Option.isNone_iff_eq_none.mp,
      known_of_unless hvalues Option.isNone_iff_eq_none.mp,
      known_of_unless hargs List.isEmpty_iff.mp]

/-- How one argument is read, inside a type that may be nested so deep. -/
def argReader : Nat → Draft → Except Fault SchemaType
  | depth + 2 => ofDraft depth
  | _ => fun _ => .error .malformed

theorem ofDraft_eq (depth : Nat) (x : Draft) :
    ofDraft depth x = x.asRecord (fields (Draft.asList fun _ => argReader depth)) blank depth := by
  match depth with
  | 0 => rfl
  | 1 => rfl
  | depth + 2 => rfl

/-- An argument is two levels less deep than the type: one for the record, one for the list. -/
theorem depth_arg {t u : SchemaType} (hvalues : ∀ xs, t.values = some xs → ∀ x ∈ xs, x.InOrder)
    (hu : u ∈ t.args) : (written u).canonical.depth + 2 ≤ (written t).canonical.depth := by
  have hnonempty : t.args.isEmpty = false := by
    rw [List.isEmpty_eq_false_iff]
    exact List.ne_nil_of_mem hu
  have hmem : ("type_args", written t.args) ∈ t.parts.flatten := by
    simp [parts, fieldUnless, field, hnonempty]
  have hitem : (written u).canonical.depth < (written t.args).canonical.depth := by
    show _ < (Json.array (t.args.map written)).canonical.depth
    rw [Json.canonical, Json.depth, Json.canonicalItems_eq_map, List.map_map]
    exact Nat.lt_succ_of_le (Json.depth_le_itemsDepth (List.mem_map_of_mem hu))
  -- Depth does not depend on how arguments are read, so any reader that gives them will do.
  have hrestores : Restores (fields fun _ _ => .ok t.args) t.knownFrom t.parts t :=
    restores hvalues fun _ _ => rfl
  have hlist : (written t.args).canonical.depth < (record t.parts).canonical.depth :=
    hrestores.depth_lt hmem
  rw [written_eq t]
  omega

/-- **A type is read as it was**, by induction over the tree. -/
theorem reads {t : SchemaType} (h : t.WellFormed) : Reads ofDraft (written t).canonical t := by
  induction h with
  | @intro t hvalues _ ih =>
    intro depth hdepth
    rw [ofDraft_eq, written_eq]
    rw [written_eq] at hdepth
    refine (restores hvalues (reads_list ?_)).reads depth hdepth
    intro u hu _ _
    -- A type with arguments is at least two levels deep, so they are read by the decoder itself.
    have harg := depth_arg hvalues hu
    rw [written_eq t] at harg
    obtain ⟨depth, rfl⟩ : ∃ k, depth = k + 2 := ⟨depth - 2, by omega⟩
    exact ih u hu depth (by omega)

end SchemaType

/-! ## Scalars -/

/-- A scalar comes back if and only if it is not a double that is not finite. -/
theorem Scalar.ofJson_toValue_eq_iff (s : Scalar) :
    Readable.ofJson (Writable.toValue s) = .ok s ↔ ∀ x, s = .float x → ∃ y, x = .finite y := by
  constructor
  · rintro h x rfl
    cases x with
    | finite y => exact ⟨y, rfl⟩
    | nan | infinity _ =>
      -- What is written is null, and null is read as the scalar of that name.
      replace h : Except.ok Scalar.null = Except.ok (Scalar.float _) := h
      cases h
  · intro h
    cases s with
    | null => rfl
    | bool b => rfl
    | string s => rfl
    | int i =>
      show (ofStored (.ofInt64 i)).mapError (fun _ => Fault.mismatch) = .ok (int i)
      simp [ofStored, Json.ofInt64, Json.Number.int64?, Number.toInt64?_toInt, Except.mapError]
    | float x =>
      obtain ⟨y, rfl⟩ := h x rfl
      rfl

/-! ## Main result -/

/-- **Reading undoes writing.** Every type of a schema, every snapshot and every choice that can be stored,
    every reference and all settings are read from their JSON value as they were; of the scalars, exactly
    those that are no infinite double and not NaN. -/
theorem ofJson_toValue :
    (∀ t : SchemaType, t.WellFormed → Readable.ofJson (Writable.toValue t) = .ok t) ∧
    (∀ s : Pin.Snapshot, s.WellFormed → Readable.ofJson (Writable.toValue s) = .ok s) ∧
    (∀ c : Pin.Choice, c.WellFormed → Readable.ofJson (Writable.toValue c) = .ok c) ∧
    (∀ r : MediaReference, Readable.ofJson (Writable.toValue r) = .ok r) ∧
    (∀ s : Settings, Readable.ofJson (Writable.toValue s) = .ok s) ∧
    (∀ s : Scalar, Readable.ofJson (Writable.toValue s) = .ok s ↔
      ∀ x, s = .float x → ∃ y, x = .finite y) := by
  refine ⟨?_, ?_, ?_, ?_, ?_, Scalar.ofJson_toValue_eq_iff⟩
  · intro t ht
    exact Reads.ofJson (SchemaType.reads ht)
  · intro s hs
    exact Reads.ofJson (Pin.Snapshot.reads hs)
  · intro c hc
    exact Reads.ofJson (Pin.Choice.reads hc)
  · intro r
    exact Reads.ofJson r.restores.reads
  · intro s
    exact Reads.ofJson s.restores.reads

/-- A union of an enumerated type with a blank name, which lists an object and a text that looks like a
    number, and of a type with no word, an empty name and an empty list of values. -/
def SchemaType.openUnion : SchemaType :=
  union [
    enumeration " " [.object [("a", .array [.null]), ("b", .bool true)], .string "2.0"],
    { blank with declaredName := some "", values := some [] }]

theorem SchemaType.wellFormed_openUnion : openUnion.WellFormed := by
  refine .intro nofun (List.forall_mem_cons.mpr ⟨?_, List.forall_mem_singleton.mpr ?_⟩)
  · refine .intro (fun xs hxs => ?_) nofun
    obtain rfl := Option.some.inj hxs
    exact List.forall_mem_cons.mpr ⟨Json.canonical_eq_self_iff.mp rfl,
      List.forall_mem_singleton.mpr (.string _)⟩
  · refine .intro (fun xs hxs => ?_) nofun
    obtain rfl := Option.some.inj hxs
    exact List.forall_mem_nil _

/-- A pin that offers one choice, whose value is the integer two. -/
def Pin.Snapshot.single : Snapshot :=
  ⟨"mode", "enum", .object [("k", .ofInt64 2)], none, some "", true, ["x", ""], [⟨.ofInt64 2, "2", 0⟩]⟩

theorem Pin.Snapshot.wellFormed_single : single.WellFormed where
  default := Json.canonical_eq_self_iff.mp rfl
  choices := List.forall_mem_singleton.mpr ⟨.number _, by decide⟩

/-- A tree with blank names and empty lists, and a pin with a choice, come back. -/
theorem ofJson_toValue_openUnion :
    SchemaType.openUnion.WellFormed ∧ Pin.Snapshot.single.WellFormed ∧
    Readable.ofJson (Writable.toValue SchemaType.openUnion) = .ok SchemaType.openUnion ∧
    Readable.ofJson (Writable.toValue Pin.Snapshot.single) = .ok Pin.Snapshot.single :=
  ⟨SchemaType.wellFormed_openUnion, Pin.Snapshot.wellFormed_single,
    ofJson_toValue.1 _ SchemaType.wellFormed_openUnion,
    ofJson_toValue.2.1 _ Pin.Snapshot.wellFormed_single⟩

end PinTypes
