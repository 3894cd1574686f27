import PinTypes.Proofs.Records

/-!
# `PinTypes.Proofs.Stored` — what was read can be stored

A record comes back from its JSON value if it is well formed: the JSON values inside are in order, and
an ordinal fits into 64 bits. Every record that a decoder lets through is. So nothing has to be asked of
a record that was read once, from a text or from a value: written and read again, it is the same.

1. Any JSON value that is read is in order, since members are placed as they come (`inOrder_of_asJson`).
2. A record is built up field by field. What the initial record has and no field breaks, the record has
   that comes out (`asRecord_keeps`), whether its fields were given by name or by position.
3. For the types of a schema the decoder calls itself on the arguments, so the statement for a type
   is by induction on the depth that is allowed.

## Contents
- **Steps of a decoder.** `of_bind_eq_ok`, `of_map_eq_ok`.
- **Values.** `inOrder_of_asJson`, `lt_of_asNatural`, `forall_of_asList`, `of_asOption`.
- **Records.** `readPositions_keeps`, `readMembers_keeps`, **`asRecord_keeps`**.
- **What is let through.** `Choice.wellFormed_of_ofDraft`, `Snapshot.wellFormed_of_ofDraft`,
  `SchemaType.wellFormed_of_ofDraft`.
- **Read, written and read again.** `ofJson_toValue_of_ofDraft`.
-/

namespace PinTypes

namespace Json

/-! ## Steps of a decoder -/

section

variable {α β : Type} {x : Except Fault α} {b : β}

theorem of_bind_eq_ok {next : α → Except Fault β} (h : x >>= next = .ok b) :
    ∃ a, x = .ok a ∧ next a = .ok b := by
  cases x with
  | error e => cases h
  | ok a => exact ⟨a, rfl, h⟩

theorem of_map_eq_ok {f : α → β} (h : x.map f = .ok b) : ∃ a, x = .ok a ∧ f a = b := by
  cases x with
  | error e => cases h
  | ok a => exact ⟨a, rfl, Except.ok.inj h⟩

end

/-! ## Values -/

mutual

/-- Every value that is read is in order. -/
theorem inOrder_of_asJson {depth : Nat} {x : Json} : ∀ {d : Draft}, d.asJson depth = .ok x → x.InOrder
  | .null, h => by cases h; exact .null
  | .bool b, h => by cases h; exact .bool b
  | .number (some n), h => by cases h; exact .number n
  | .text (some s), h => by cases h; exact .string s
  | .number none, h => nomatch h
  | .text none, h => nomatch h
  | .fault, h => nomatch h
  | .array items false, h => nomatch h
  | .object members false, h => nomatch h
  | .array items true, h => by
    cases depth with
    | zero => cases h
    | succ depth =>
      rw [Draft.asJson] at h
      obtain ⟨found, hfound, rfl⟩ := of_map_eq_ok h
      exact .array (inOrder_of_asItems hfound)
  | .object members true, h => by
    cases depth with
    | zero => cases h
    | succ depth =>
      rw [Draft.asJson] at h
      obtain ⟨found, hfound, rfl⟩ := of_map_eq_ok h
      obtain ⟨names, values⟩ := inOrder_of_asMembers hfound
      exact .object names values

theorem inOrder_of_asItems {depth : Nat} : ∀ {ds : List Draft} {xs : List Json},
    Draft.asItems depth ds = .ok xs → ∀ x ∈ xs, x.InOrder
  | [], _, h => by cases h; exact fun _ hx => nomatch hx
  | d :: ds, _, h => by
    rw [Draft.asItems] at h
    obtain ⟨first, hfirst, h⟩ := of_bind_eq_ok h
    obtain ⟨rest, hrest, h⟩ := of_bind_eq_ok h
    cases h
    exact List.forall_mem_cons.mpr ⟨inOrder_of_asJson hfirst, inOrder_of_asItems hrest⟩

theorem inOrder_of_asMembers {depth : Nat} : ∀ {ds : List (Option String × Draft)}
    {ms : List (String × Json)}, Draft.asMembers depth ds = .ok ms →
    ms.Pairwise (·.1 < ·.1) ∧ ∀ m ∈ ms, m.2.InOrder
  | [], _, h => by cases h; exact ⟨.nil, fun _ hm => nomatch hm⟩
  | (none, _) :: _, _, h => nomatch h
  | (some name, d) :: ds, _, h => by
    rw [Draft.asMembers] at h
    obtain ⟨first, hfirst, h⟩ := of_bind_eq_ok h
    obtain ⟨rest, hrest, h⟩ := of_bind_eq_ok h
    cases h
    obtain ⟨names, values⟩ := inOrder_of_asMembers hrest
    refine ⟨pairwise_place names, fun m hm => ?_⟩
    rcases mem_place hm with rfl | hm
    · exact inOrder_of_asJson hfirst
    · exact values m hm

end

/-- A number that is read as a natural one fits into 64 bits. -/
theorem lt_of_asNatural {d : Draft} {n : Nat} (h : d.asNatural = .ok n) : n < 2 ^ 64 := by
  unfold Draft.asNatural at h
  split at h
  · rename_i whole inRange
    have hlt := inRange.natAbs_lt
    by_cases hsign : 0 ≤ whole
    · rw [if_pos hsign] at h
      obtain rfl := Except.ok.inj h
      omega
    · rw [if_neg hsign] at h
      cases h
  · cases h

section

variable {α σ : Type}

/-- Something that is read where null is allowed is read as it is. -/
theorem of_asOption {read : Draft → Except Fault α} {d : Draft} {a : α}
    (h : d.asOption read = .ok (some a)) : read d = .ok a := by
  unfold Draft.asOption at h
  split at h
  · cases h
  · obtain ⟨b, hb, hsome⟩ := of_map_eq_ok h
    rw [hb, Option.some.inj hsome]

/-- What is true of each item as it is read is true of all items that are read. -/
theorem forall_of_mapM {read : Draft → Except Fault α} {P : α → Prop}
    (hread : ∀ d a, read d = .ok a → P a) {ds : List Draft} {xs : List α} (h : ds.mapM read = .ok xs) :
    ∀ a ∈ xs, P a := by
  induction ds generalizing xs with
  | nil =>
    cases h
    exact List.forall_mem_nil _
  | cons d ds ih =>
    rw [List.mapM_cons] at h
    obtain ⟨first, hfirst, h⟩ := of_bind_eq_ok h
    obtain ⟨rest, hrest, h⟩ := of_bind_eq_ok h
    cases h
    exact List.forall_mem_cons.mpr ⟨hread d first hfirst, ih hrest⟩

theorem forall_of_asList {read : Nat → Draft → Except Fault α} {P : α → Prop}
    (hread : ∀ depth d a, read depth d = .ok a → P a) {depth : Nat} {d : Draft} {xs : List α}
    (h : d.asList read depth = .ok xs) : ∀ a ∈ xs, P a := by
  unfold Draft.asList at h
  split at h
  · cases h
  · rename_i depth items closed
    obtain ⟨found, hfound, h⟩ := of_bind_eq_ok h
    cases closed with
    | false => cases h
    | true =>
      obtain rfl := Except.ok.inj h
      exact forall_of_mapM (hread depth) hfound
  · cases h

/-! ## Records -/

/-- A field keeps a property if it is not lost when the field is set to whatever is read for it. -/
def RecordField.Keeps (f : RecordField σ) (P : σ → Prop) : Prop :=
  ∀ depth d s s', P s → f.read depth d s = .ok s' → P s'

/-- A field that sets what was read keeps a property that all values which can be read may have. -/
theorem RecordField.keeps_of_set {f : RecordField σ} {P : σ → Prop} {read : Nat → Draft → Except Fault α}
    {set : σ → α → σ} (hread : f.read = fun depth d s => do return set s (← read depth d))
    (hset : ∀ depth d s a, P s → read depth d = .ok a → P (set s a)) : f.Keeps P := by
  intro depth d s s' hs h
  rw [hread] at h
  obtain ⟨a, ha, h⟩ := of_bind_eq_ok h
  obtain rfl := Except.ok.inj h
  exact hset depth d s a hs ha

variable {fields : List (RecordField σ)} {P : σ → Prop}

theorem readPositions_keeps (hfields : ∀ f ∈ fields, f.Keeps P) {depth : Nat} {closed : Bool}
    {items : List Draft} {s r : σ} (hs : P s)
    (h : readPositions depth closed fields items s = .ok r) : P r := by
  induction fields generalizing items s with
  | nil =>
    rw [readPositions] at h
    split at h
    · obtain rfl := Except.ok.inj h
      exact hs
    · cases h
  | cons f fs ih =>
    have hrest : ∀ f ∈ fs, f.Keeps P := fun g hg => hfields g (List.mem_cons_of_mem _ hg)
    cases items with
    | nil =>
      rw [readPositions] at h
      split at h
      · cases h
      · split at h
        · cases h
        · exact ih hrest hs h
    | cons d ds =>
      rw [readPositions] at h
      obtain ⟨s', hs', h⟩ := of_bind_eq_ok h
      exact ih hrest (hfields f List.mem_cons_self depth d s s' hs hs') h

theorem readMembers_keeps (hfields : ∀ f ∈ fields, f.Keeps P) {depth : Nat} {closed : Bool}
    {seen : List String} {members : List (Option String × Draft)} {s r : σ} (hs : P s)
    (h : readMembers fields depth closed seen members s = .ok r) : P r := by
  induction members generalizing seen s with
  | nil =>
    rw [readMembers] at h
    split at h
    · cases h
    · split at h
      · obtain rfl := Except.ok.inj h
        exact hs
      · cases h
  | cons m ms ih =>
    obtain ⟨_ | name, d⟩ := m
    · cases h
    · rw [readMembers] at h
      split at h
      · exact ih hs h
      · rename_i f hfind
        split at h
        · cases h
        · obtain ⟨s', hs', h⟩ := of_bind_eq_ok h
          have hkeeps := hfields f (List.mem_of_find?_eq_some hfind)
          exact ih (hkeeps depth d s s' hs hs') h

/-- **What the initial record has and no field breaks, every record has that is read.** -/
theorem asRecord_keeps {initial r : σ} (hfields : ∀ f ∈ fields, f.Keeps P) (hinitial : P initial)
    {depth : Nat} {d : Draft} (h : d.asRecord fields initial depth = .ok r) : P r := by
  unfold Draft.asRecord at h
  split at h
  · cases h
  · cases h
  · exact readPositions_keeps hfields hinitial h
  · exact readMembers_keeps hfields hinitial h
  · cases h

end

end Json

open Json (Writable Readable Draft Fault RecordField inOrder_of_asJson lt_of_asNatural forall_of_asList
  of_asOption asRecord_keeps)

/-! ## What is let through -/

namespace Pin

theorem Choice.wellFormed_of_ofDraft {depth : Nat} {d : Draft} {c : Choice}
    (h : Readable.ofDraft depth d = .ok c) : c.WellFormed := by
  refine asRecord_keeps ?_ ⟨.null, by decide⟩ h
  refine List.forall_mem_cons.mpr ⟨?_, List.forall_mem_cons.mpr ⟨?_, List.forall_mem_singleton.mpr ?_⟩⟩
  · exact RecordField.keeps_of_set rfl fun _ _ _ _ hc hx => ⟨inOrder_of_asJson hx, hc.ordinal⟩
  · exact RecordField.keeps_of_set rfl fun _ _ _ _ hc _ => ⟨hc.value, hc.ordinal⟩
  · exact RecordField.keeps_of_set rfl fun _ _ _ _ hc hn => ⟨hc.value, lt_of_asNatural hn⟩

theorem Snapshot.wellFormed_of_ofDraft {depth : Nat} {d : Draft} {s : Snapshot}
    (h : Readable.ofDraft depth d = .ok s) : s.WellFormed := by
  refine asRecord_keeps ?_ ⟨.null, List.forall_mem_nil _⟩ h
  intro f hf
  simp only [Snapshot.fields, List.mem_cons, List.not_mem_nil, or_false] at hf
  -- Two fields matter, the default and the choices; the others leave both as they are.
  rcases hf with rfl | rfl | rfl | rfl | rfl | rfl | rfl | rfl
  · exact RecordField.keeps_of_set rfl fun _ _ _ _ hs _ => ⟨hs.default, hs.choices⟩
  · exact RecordField.keeps_of_set rfl fun _ _ _ _ hs _ => ⟨hs.default, hs.choices⟩
  · exact RecordField.keeps_of_set rfl fun _ _ _ _ hs hx => ⟨inOrder_of_asJson hx, hs.choices⟩
  · exact RecordField.keeps_of_set rfl fun _ _ _ _ hs _ => ⟨hs.default, hs.choices⟩
  · exact RecordField.keeps_of_set rfl fun _ _ _ _ hs _ => ⟨hs.default, hs.choices⟩
  · exact RecordField.keeps_of_set rfl fun _ _ _ _ hs _ => ⟨hs.default, hs.choices⟩
  · exact RecordField.keeps_of_set rfl fun _ _ _ _ hs _ => ⟨hs.default, hs.choices⟩
  · refine RecordField.keeps_of_set rfl fun _ _ _ _ hs hcs => ⟨hs.default, ?_⟩
    exact forall_of_asList (fun _ _ _ => Choice.wellFormed_of_ofDraft) hcs

end Pin

namespace SchemaType

theorem wellFormed_blank : blank.WellFormed := .intro nofun (List.forall_mem_nil _)

/-- By induction on the depth that is allowed: the arguments are read two levels further down. -/
theorem wellFormed_of_ofDraft {depth : Nat} {d : Draft} {t : SchemaType} (h : ofDraft depth d = .ok t) :
    t.WellFormed := by
  induction depth using Nat.strongRecOn generalizing d t with
  | ind depth ih =>
    have hargs : ∀ d u, argReader depth d = .ok u → u.WellFormed := by
      intro d u hu
      match depth with
      | 0 => cases hu
      | 1 => cases hu
      | depth + 2 => exact ih depth (by omega) hu
    rw [ofDraft_eq] at h
    refine asRecord_keeps ?_ wellFormed_blank h
    intro f hf
    simp only [fields, List.mem_cons, List.not_mem_nil, or_false] at hf
    rcases hf with rfl | rfl | rfl | rfl | rfl
    · exact RecordField.keeps_of_set rfl fun _ _ _ _ ht _ => .intro ht.values ht.args
    · exact RecordField.keeps_of_set rfl fun _ _ _ _ ht _ => .intro ht.values ht.args
    · refine RecordField.keeps_of_set rfl fun _ _ _ _ ht hvalues => .intro ?_ ht.args
      rintro xs rfl
      exact forall_of_asList (fun _ _ _ => inOrder_of_asJson) (of_asOption hvalues)
    · refine RecordField.keeps_of_set rfl fun _ _ _ _ ht hus => .intro ht.values ?_
      exact forall_of_asList (fun _ => hargs) hus
    · exact RecordField.keeps_of_set rfl fun _ _ _ _ ht _ => .intro ht.values ht.args

end SchemaType

/-! ## Read, written and read again -/

/-- **What was read once comes back.** Whatever draft a type, a snapshot or a choice was decoded from, and
    at whatever depth, it is read from its own JSON value as it was. -/
theorem ofJson_toValue_of_ofDraft {depth : Nat} {d : Draft} :
    (∀ t : SchemaType, Readable.ofDraft depth d = .ok t → Readable.ofJson (Writable.toValue t) = .ok t) ∧
    (∀ s : Pin.Snapshot, Readable.ofDraft depth d = .ok s → Readable.ofJson (Writable.toValue s) = .ok s) ∧
    (∀ c : Pin.Choice, Readable.ofDraft depth d = .ok c → Readable.ofJson (Writable.toValue c) = .ok c) := by
  refine ⟨?_, ?_, ?_⟩
  · intro t ht
    exact (SchemaType.reads (SchemaType.wellFormed_of_ofDraft ht)).ofJson
  · intro s hs
    exact (Pin.Snapshot.reads (Pin.Snapshot.wellFormed_of_ofDraft hs)).ofJson
  · intro c hc
    exact (Pin.Choice.reads (Pin.Choice.wellFormed_of_ofDraft hc)).ofJson

end PinTypes
