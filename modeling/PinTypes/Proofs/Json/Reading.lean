import PinTypes.Json.Readable
import PinTypes.Json.Writable
import PinTypes.Proofs.Json.Order
import Mathlib.Data.List.Forall2
import Mathlib.Data.List.Nodup

/-!
# `PinTypes.Proofs.Json.Reading` — what was written is read

A decoder *reads* a thing from a value if it gives that thing at every depth that the value does not
exceed. For plain values, options and lists this is shown once. For records it is shown for any list of
fields: if each field, read on its own, puts back what was written for it, and a field that was left out
still has its initial value, then the record is read from its canonical form, whatever order the members
have there.

The argument for records is an invariant. After the members with the names `seen` the decoder has built
`state seen`: the record as far as it is known. Each member takes `state seen` to `state (name :: seen)`.

## Contents
- **Reading.** `Reads`, `Reads.ofJson`, `Reads.sets`.
- **Plain values.** `reads_string`, `reads_bool`, `reads_natural`, `reads_option`, `reads_list`.
- **Any value.** `reads_json`, for values in order.
- **Fields.** `FieldRestored`: how one field is written and read back.
- **Records.** `Restores`, `readMembers_eq`, **`Restores.reads`**.
-/

namespace PinTypes.Json

/-! ## Reading -/

/-- Decoding the value gives that thing, at any depth that the value does not exceed. -/
def Reads {α : Type} (read : Nat → Draft → Except Fault α) (x : Json) (a : α) : Prop :=
  ∀ depth, x.depth ≤ depth → read depth (Draft.ofJson x) = .ok a

section

variable {α σ : Type} {read : Nat → Draft → Except Fault α} {x : Json} {a : α}

theorem Reads.ofJson [Readable α] (h : Reads Readable.ofDraft x a) : Readable.ofJson x = .ok a := by
  unfold Readable.ofJson
  rw [h x.depth (Nat.le_refl _)]
  rfl

/-- What was read is put into a record. -/
theorem Reads.sets {set : α → σ} {s : σ} (h : Reads read x a) (hset : set a = s) :
    Reads (fun depth y => do return set (← read depth y)) x s := by
  intro depth hdepth
  show (read depth (Draft.ofJson x) >>= fun a => pure (set a)) = .ok s
  rw [h depth hdepth, ← hset]
  rfl

/-! ## Plain values -/

theorem reads_string (s : String) : Reads (fun _ => Draft.asString) (.string s) s :=
  fun _ _ => rfl

theorem reads_bool (b : Bool) : Reads (fun _ => Draft.asBool) (.bool b) b :=
  fun _ _ => rfl

/-- A number of 64 bits without a sign. -/
theorem reads_natural {n : Nat} (h : n < 2 ^ 64) :
    Reads (fun _ => Draft.asNatural) (ofNat n).canonical n := by
  intro depth _
  have hrange : IntegerRange (n : Int) := by
    unfold IntegerRange Number.int64Limit Number.nat64Limit
    omega
  have hwritten : ofNat n = .number (.integer n hrange) := by
    unfold ofNat
    rw [dif_pos hrange]
  rw [hwritten]
  show (if (0 : Int) ≤ n then Except.ok (n : Int).toNat else .error .mismatch) = .ok n
  rw [if_pos (Int.natCast_nonneg n), Int.toNat_natCast]

/-- Something that is not written as null. -/
theorem reads_option (h : Reads read x a) (hnull : x ≠ .null) :
    Reads (fun depth y => y.asOption (read depth)) x (some a) := by
  intro depth hdepth
  show Draft.asOption (read depth) (Draft.ofJson x) = .ok (some a)
  have hread := h depth hdepth
  -- Only the form of the value has to be seen: all but null are left to `read`.
  cases x with
  | null => exact absurd rfl hnull
  | bool _ | number _ | string _ | array _ | object _ =>
    simp only [Draft.ofJson] at hread ⊢
    rw [Draft.asOption, hread]
    · rfl
    · nofun

theorem ofItems_eq_map (xs : List Json) : Draft.ofItems xs = xs.map Draft.ofJson := by
  induction xs with
  | nil => rfl
  | cons x xs ih => rw [Draft.ofItems, ih, List.map_cons]

/-- Things that are read one by one are read as a list. -/
theorem mapM_read {read : Draft → Except Fault α} {draft : α → Draft} {xs : List α}
    (h : ∀ a ∈ xs, read (draft a) = .ok a) : (xs.map draft).mapM read = .ok xs := by
  induction xs with
  | nil => rfl
  | cons a xs ih =>
    rw [List.map_cons, List.mapM_cons, h a List.mem_cons_self,
      ih fun b hb => h b (List.mem_cons_of_mem _ hb)]
    rfl

/-- A list, if each item is read. -/
theorem reads_list [Writable α] {xs : List α} (h : ∀ a ∈ xs, Reads read (written a).canonical a) :
    Reads (Draft.asList read) (written xs).canonical xs := by
  have hwritten : (written xs).canonical = .array (xs.map fun a => (written a).canonical) := by
    show (Json.array (xs.map written)).canonical = _
    rw [canonical, canonicalItems_eq_map, List.map_map]
    rfl
  rw [hwritten]
  intro depth hdepth
  rw [Json.depth] at hdepth
  obtain ⟨depth, rfl⟩ : ∃ k, depth = k + 1 := ⟨depth - 1, by omega⟩
  have hitems : (xs.map fun a => Draft.ofJson (written a).canonical).mapM (read depth) = .ok xs := by
    apply mapM_read
    intro a ha
    -- The list takes one level of the depth; what is left is enough for each item.
    have hmem := List.mem_map_of_mem (f := fun a => (written a).canonical) ha
    exact h a ha depth (Nat.le_trans (depth_le_itemsDepth hmem) (Nat.le_of_succ_le_succ hdepth))
  rw [Draft.ofJson, ofItems_eq_map, List.map_map]
  show (do
    let found ← (xs.map fun a => Draft.ofJson (written a).canonical).mapM (read depth)
    if true then Except.ok found else .error .malformed) = Except.ok xs
  rw [hitems]
  rfl

end

/-! ## Any value -/

theorem asItems_eq_mapM (depth : Nat) (ds : List Draft) :
    Draft.asItems depth ds = ds.mapM (Draft.asJson depth) := by
  induction ds with
  | nil => rfl
  | cons d ds ih =>
    rw [Draft.asItems, List.mapM_cons, ih]

/-- Members in order of their names stay in that order. -/
theorem asMembers_ofMembers {depth : Nat} {ms : List (String × Json)} (names : ms.Pairwise (·.1 < ·.1))
    (h : ∀ m ∈ ms, Draft.asJson depth (Draft.ofJson m.2) = .ok m.2) :
    Draft.asMembers depth (Draft.ofMembers ms) = .ok ms := by
  induction ms with
  | nil => rfl
  | cons m ms ih =>
    obtain ⟨hfirst, hrest⟩ := List.pairwise_cons.mp names
    rw [Draft.ofMembers, Draft.asMembers, h m List.mem_cons_self,
      ih hrest fun m' hm' => h m' (List.mem_cons_of_mem _ hm')]
    -- The name is less than all names behind it, so the member is placed where it was.
    show Except.ok (place m.1 m.2 ms) = .ok (m :: ms)
    rw [place_of_forall_lt hfirst]

/-- A value in order is read as it is. -/
theorem reads_json {x : Json} (h : x.InOrder) : Reads Draft.asJson x.canonical x := by
  rw [canonical_of_inOrder h]
  induction h with
  | null => exact fun _ _ => rfl
  | bool b => exact fun _ _ => rfl
  | number n => exact fun _ _ => rfl
  | string s => exact fun _ _ => rfl
  | @array items _ ih =>
    intro depth hdepth
    rw [Json.depth] at hdepth
    obtain ⟨depth, rfl⟩ : ∃ k, depth = k + 1 := ⟨depth - 1, by omega⟩
    have hitems : Draft.asItems depth (Draft.ofItems items) = .ok items := by
      rw [asItems_eq_mapM, ofItems_eq_map]
      apply mapM_read
      intro x hx
      exact ih x hx depth (Nat.le_trans (depth_le_itemsDepth hx) (Nat.le_of_succ_le_succ hdepth))
    rw [Draft.ofJson, Draft.asJson, hitems]
    rfl
  | @object members names _ ih =>
    intro depth hdepth
    rw [Json.depth] at hdepth
    obtain ⟨depth, rfl⟩ : ∃ k, depth = k + 1 := ⟨depth - 1, by omega⟩
    have hmembers : Draft.asMembers depth (Draft.ofMembers members) = .ok members := by
      apply asMembers_ofMembers names
      intro m hm
      exact ih m hm depth (Nat.le_trans (depth_le_membersDepth hm) (Nat.le_of_succ_le_succ hdepth))
    rw [Draft.ofJson, Draft.asJson, hmembers]
    rfl

/-! ## Fields

A field is written as one member of its name, or left out. `state` is the record as it has been built up
when the members of the given names were read. -/

/-- What was written for the field is read back: it takes the record from what is known without the field
    to what is known with it. Only a field that may be missing is left out. -/
inductive FieldRestored {σ : Type} (state : List String → σ) (f : RecordField σ) :
    List (String × Json) → Prop
  | omitted (optional : f.required = false) : FieldRestored state f []
  | given {x : Json} (restored : ∀ seen,
      Reads (fun depth y => f.read depth y (state seen)) x.canonical (state (f.name :: seen))) :
      FieldRestored state f [(f.name, x)]

section

variable {σ : Type} {state : List String → σ} {f : RecordField σ}

/-- A field that is left out under a condition. -/
theorem FieldRestored.unless {α : Type} [Writable α] {omitted : Bool} {x : α}
    (optional : f.required = false)
    (h : omitted = false → ∀ seen, Reads (fun depth y => f.read depth y (state seen))
      (written x).canonical (state (f.name :: seen))) :
    FieldRestored state f (fieldUnless omitted f.name x) := by
  unfold fieldUnless
  cases omitted with
  | true => exact .omitted optional
  | false => exact .given (h rfl)

/-- A field without a value is left out. -/
theorem FieldRestored.option {α : Type} [Writable α] {o : Option α} (optional : f.required = false)
    (h : ∀ a, o = some a → ∀ seen, Reads (fun depth y => f.read depth y (state seen))
      (written a).canonical (state (f.name :: seen))) :
    FieldRestored state f (fieldUnless o.isNone f.name o) := by
  apply FieldRestored.unless optional
  intro hsome
  cases o with
  | none => cases hsome
  | some a => exact h a rfl

end

/-! ## Records -/

/-- A record that is written field by field is restored: no two fields have one name, each field is
    restored, and once all written members were read the record is known. -/
structure Restores {σ : Type} (fields : List (RecordField σ)) (state : List String → σ)
    (parts : List (List (String × Json))) (r : σ) : Prop where
  distinct : (fields.map (·.name)).Nodup
  restored : List.Forall₂ (FieldRestored state) fields parts
  complete : ∀ seen, (∀ m ∈ parts.flatten, m.1 ∈ seen) → state seen = r

/-- A component is known if it was read, or if it was left out for being the initial one. -/
theorem known_of_unless {α : Type} {omitted : Bool} {a initial : α} {p : Prop} [Decidable p]
    (hread : omitted = false → p) (hinitial : omitted = true → a = initial) :
    (if p then a else initial) = a := by
  cases omitted with
  | true => rw [hinitial rfl, ite_self]
  | false => rw [if_pos (hread rfl)]

/-- What is said of the member of a field that is always written. -/
theorem forall_mem_field {α : Type} [Writable α] {name : String} {x : α} {p : String × Json → Prop} :
    (∀ m ∈ field name x, p m) ↔ p (name, written x) :=
  List.forall_mem_singleton

/-- What is said of the member of a field that may be left out. -/
theorem forall_mem_fieldUnless {α : Type} [Writable α] {omitted : Bool} {name : String} {x : α}
    {p : String × Json → Prop} :
    (∀ m ∈ fieldUnless omitted name x, p m) ↔ (omitted = false → p (name, written x)) := by
  cases omitted with
  | true => exact ⟨fun _ h => (nomatch h), fun _ _ hm => (nomatch hm)⟩
  | false => exact forall_mem_field.trans ⟨fun h _ => h, fun h => h rfl⟩

section

variable {σ : Type} {fields : List (RecordField σ)} {state : List String → σ}
  {parts : List (List (String × Json))}

/-- The members have names of fields, in order of declaration. -/
theorem names_sublist (h : List.Forall₂ (FieldRestored state) fields parts) :
    (parts.flatten.map Prod.fst).Sublist (fields.map (·.name)) := by
  induction h with
  | nil => exact List.Sublist.refl _
  | cons hfield _ ih =>
    cases hfield with
    | omitted _ => exact ih.cons _
    | given _ => exact ih.cons_cons _

/-- Each member is that of a field which reads it. -/
theorem exists_field (h : List.Forall₂ (FieldRestored state) fields parts) {m : String × Json}
    (hm : m ∈ parts.flatten) : ∃ f ∈ fields, f.name = m.1 ∧ ∀ seen,
      Reads (fun depth y => f.read depth y (state seen)) m.2.canonical (state (m.1 :: seen)) := by
  induction h with
  | nil => cases hm
  | cons hfield _ ih =>
    rw [List.flatten_cons] at hm
    rcases List.mem_append.mp hm with hhere | hlater
    · cases hfield with
      | omitted _ => cases hhere
      | given hread =>
        obtain rfl := List.mem_singleton.mp hhere
        exact ⟨_, List.mem_cons_self, rfl, hread⟩
    · obtain ⟨f, hf, hname, hread⟩ := ih hlater
      exact ⟨f, List.mem_cons_of_mem _ hf, hname, hread⟩

/-- A required field is written. -/
theorem required_written (h : List.Forall₂ (FieldRestored state) fields parts) {f : RecordField σ}
    (hf : f ∈ fields) (hrequired : f.required = true) : ∃ m ∈ parts.flatten, m.1 = f.name := by
  induction h with
  | nil => cases hf
  | cons hfield _ ih =>
    rcases List.mem_cons.mp hf with rfl | hf
    · cases hfield with
      | omitted hoptional => rw [hoptional] at hrequired; cases hrequired
      | given _ => exact ⟨_, List.mem_append_left _ List.mem_cons_self, rfl⟩
    · obtain ⟨m, hm, hname⟩ := ih hf
      exact ⟨m, List.mem_append_right _ hm, hname⟩

/-- A field is found by its name. -/
theorem find?_name (distinct : (fields.map (·.name)).Nodup) {f : RecordField σ} (hf : f ∈ fields) :
    fields.find? (·.name == f.name) = some f := by
  induction fields with
  | nil => cases hf
  | cons first rest ih =>
    rw [List.map_cons, List.nodup_cons] at distinct
    rw [List.find?_cons]
    rcases List.mem_cons.mp hf with rfl | hf
    · rw [beq_self_eq_true]
    · have hne : (first.name == f.name) = false := by
        apply beq_eq_false_iff_ne.mpr
        intro heq
        exact distinct.1 (List.mem_map.mpr ⟨f, hf, heq.symm⟩)
      rw [hne]
      exact ih distinct.2 hf

/-- **A run over the members.** Reading them one after the other keeps the record as it is known from the
    names seen so far. -/
theorem readMembers_eq {depth : Nat} {members : List (String × Json)} {seen : List String}
    (distinct : (members.map Prod.fst).Nodup) (fresh : ∀ m ∈ members, m.1 ∉ seen)
    (restored : ∀ m ∈ members, ∃ f, fields.find? (·.name == m.1) = some f ∧
      ∀ seen, f.read depth (Draft.ofJson m.2) (state seen) = .ok (state (m.1 :: seen)))
    (required : ∀ f ∈ fields, f.required = true → f.name ∈ (members.map Prod.fst).reverse ++ seen) :
    readMembers fields depth true seen (Draft.ofMembers members) (state seen) =
      .ok (state ((members.map Prod.fst).reverse ++ seen)) := by
  induction members generalizing seen with
  | nil =>
    have hall : fields.all (fun f => !f.required || seen.contains f.name) = true := by
      apply List.all_eq_true.mpr
      intro f hf
      cases hrequired : f.required with
      | false => rfl
      | true => simpa using required f hf hrequired
    rw [Draft.ofMembers, readMembers, if_neg (by simp), if_pos hall]
    rfl
  | cons m members ih =>
    rw [List.map_cons, List.nodup_cons] at distinct
    rw [List.map_cons, List.reverse_cons, List.append_assoc, List.singleton_append] at required ⊢
    obtain ⟨f, hfind, hread⟩ := restored m List.mem_cons_self
    -- The names behind this member are new, also against its own.
    have hfresh : ∀ m' ∈ members, m'.1 ∉ m.1 :: seen := by
      intro m' hm' hmem
      rcases List.mem_cons.mp hmem with heq | hseen
      · exact distinct.1 (List.mem_map.mpr ⟨m', hm', heq⟩)
      · exact fresh m' (List.mem_cons_of_mem _ hm') hseen
    have hnew : ¬seen.contains m.1 = true := by
      simpa using fresh m List.mem_cons_self
    rw [Draft.ofMembers, readMembers, hfind]
    simp only [if_neg hnew, hread seen]
    exact ih distinct.2 hfresh (fun m' hm' => restored m' (List.mem_cons_of_mem _ hm')) required

section

variable {r : σ}

/-- No name is written twice. -/
theorem Restores.nodup_names (h : Restores fields state parts r) : (parts.flatten.map Prod.fst).Nodup :=
  h.distinct.sublist (names_sublist h.restored)

/-- What is written for a field is less deep than the record. -/
theorem Restores.depth_lt (h : Restores fields state parts r) {m : String × Json}
    (hm : m ∈ parts.flatten) : m.2.canonical.depth < (record parts).canonical.depth := by
  have hmem : (m.1, m.2.canonical) ∈ canonicalMembers parts.flatten :=
    (canonicalMembers_perm h.nodup_names).mem_iff.mpr (List.mem_map_of_mem hm)
  exact Nat.lt_succ_of_le (depth_le_membersDepth hmem)

/-- **A restored record is read from its canonical form.** -/
theorem Restores.reads (h : Restores fields state parts r) :
    Reads (Draft.asRecord fields (state [])) (record parts).canonical r := by
  intro depth hdepth
  -- In canonical form the members stand in another order, so all is said of a permutation of them.
  have hperm := canonicalMembers_perm h.nodup_names
  have hnames : ((canonicalMembers parts.flatten).map Prod.fst).Perm (parts.flatten.map Prod.fst) := by
    have hmap := hperm.map Prod.fst
    rwa [List.map_map] at hmap
  obtain ⟨depth, rfl⟩ : ∃ k, depth = k + 1 :=
    Nat.exists_eq_add_one.mpr (Nat.lt_of_lt_of_le (Nat.succ_pos _) hdepth)
  show readMembers fields depth true [] (Draft.ofMembers (canonicalMembers parts.flatten)) (state []) = .ok r
  rw [readMembers_eq (hnames.nodup_iff.mpr h.nodup_names) (fun m _ => List.not_mem_nil)]
  · congr 1
    apply h.complete
    intro m hm
    rw [List.append_nil, List.mem_reverse]
    exact hnames.mem_iff.mpr (List.mem_map_of_mem hm)
  · intro m hm
    obtain ⟨m', hm', rfl⟩ := List.mem_map.mp (hperm.mem_iff.mp hm)
    obtain ⟨f, hf, hname, hread⟩ := exists_field h.restored hm'
    refine ⟨f, hname ▸ find?_name h.distinct hf, fun seen => hread seen depth ?_⟩
    exact Nat.le_of_lt_succ (Nat.lt_of_lt_of_le (h.depth_lt hm') hdepth)
  · intro f hf hrequired
    obtain ⟨m, hm, hname⟩ := required_written h.restored hf hrequired
    rw [List.append_nil, List.mem_reverse, ← hname]
    exact hnames.mem_iff.mpr (List.mem_map_of_mem hm)

end

end

end PinTypes.Json
