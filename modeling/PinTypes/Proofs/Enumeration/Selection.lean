import PinTypes.Enumeration.Selection
import PinTypes.Proofs.Number.Digits
import Mathlib.Order.Bounds.Basic

/-!
# `PinTypes.Proofs.Enumeration.Selection` — selecting, said without an index

`EnumType.select` goes through an index that was built key by key. `EnumType.Resolves` says what it
finds without one: the *least* position whose variant passes a test. A catalogued type tests keys as they
are and only then in small letters, a minted type tests them in small letters at once; failing both, the
scalar is read as a position, and failing that the first position stands in. What reads as a position is said
by `Scalar.ReadsAs`, without reading anything.

## Contents
- **Scalars that are positions.** `Scalar.ReadsAs`, `Scalar.ordinal?_eq_some_iff`.
- **Positions.** `EnumType.positions`, `isLeast_positions_iff`, which turns a search into a least position.
- **Keys.** `EnumType.matchKey`, `EnumType.ordinalForKey_eq_some_iff`, `EnumType.ordinalForKey_eq_none_iff`.
- **The reference.** `EnumType.Resolves`, `EnumType.select_eq_iff`.
- **Main statement.** `EnumType.select_agrees_with_scan`.
-/

namespace PinTypes

open PinTypes.Text (lowered)

/-! ## Scalars that are positions -/

namespace Scalar

/-- The scalar reads as a position: it is an integer that is not negative, or a string that spells one of 64
    bits, the blanks around it left out. -/
inductive ReadsAs : Scalar → Nat → Prop where
  | int {i : Int64} {n : Nat} (value : i.toInt = n) : ReadsAs (int i) n
  | string {s : String} {n : Nat} (spelled : Number.Spells (Text.trimmed s).toList n)
      (fits : Number.FitsInt64 n) : ReadsAs (string s) n

theorem natural?_eq_some_iff {i : Int64} {n : Nat} :
    (if 0 ≤ i.toInt then some i.toInt.toNat else none) = some n ↔ i.toInt = n := by
  rw [Option.ite_none_right_eq_some, Option.some.injEq]
  omega

/-- **What reads as a position.** -/
theorem ordinal?_eq_some_iff {s : Scalar} {n : Nat} : s.ordinal? = some n ↔ s.ReadsAs n := by
  cases s with
  | null => exact ⟨nofun, nofun⟩
  | bool b => exact ⟨nofun, nofun⟩
  | float x => exact ⟨nofun, nofun⟩
  | int i =>
    show (if 0 ≤ i.toInt then some i.toInt.toNat else none) = some n ↔ _
    rw [natural?_eq_some_iff]
    exact ⟨.int, fun (.int value) => value⟩
  | string t =>
    show (Number.readInt64 (Text.trim t.toList)).bind _ = some n ↔ _
    rw [Option.bind_eq_some_iff, ← Text.toList_trimmed]
    simp only [Number.readInt64_eq_some_iff, natural?_eq_some_iff]
    constructor
    · rintro ⟨i, spelled, value⟩
      rw [value] at spelled
      exact .string spelled (value ▸ ⟨Int64.le_toInt i, Int64.toInt_lt i⟩)
    · rintro (_ | ⟨spelled, fits⟩)
      have value : (Int64.ofInt n).toInt = n := Int64.toInt_ofInt_of_le fits.1 fits.2
      exact ⟨Int64.ofInt n, value.symm ▸ spelled, value⟩

end Scalar

namespace EnumType

/-! ## Positions -/

/-- The positions whose variant passes a test. -/
def positions (t : EnumType) (test : Scalar → Prop) : Set Nat :=
  {i | ∃ v, t.variants[i]? = some v ∧ test v}

theorem lt_size_of_mem_positions {t : EnumType} {test : Scalar → Prop} {i : Nat}
    (h : i ∈ t.positions test) : i < t.size := by
  obtain ⟨v, hv, _⟩ := h
  exact (List.getElem?_eq_some_iff.mp hv).1

/-- A search from the front finds the least position. -/
theorem isLeast_positions_iff {t : EnumType} {p : Scalar → Bool} {i : Nat} :
    IsLeast (t.positions (p · = true)) i ↔ t.variants.findIdx? p = some i := by
  rw [List.findIdx?_eq_some_iff_getElem]
  constructor
  · rintro ⟨⟨v, hv, hp⟩, hlow⟩
    obtain ⟨hi, rfl⟩ := List.getElem?_eq_some_iff.mp hv
    refine ⟨hi, hp, fun j hj hpj => ?_⟩
    have hmem : j ∈ t.positions (p · = true) :=
      ⟨_, List.getElem?_eq_getElem (Nat.lt_trans hj hi), hpj⟩
    exact absurd (hlow hmem) (Nat.not_le_of_lt hj)
  · rintro ⟨hi, hp, hbefore⟩
    refine ⟨⟨_, List.getElem?_eq_getElem hi, hp⟩, fun j hj => ?_⟩
    obtain ⟨v, hv, hpv⟩ := hj
    obtain ⟨hjlen, rfl⟩ := List.getElem?_eq_some_iff.mp hv
    exact Nat.le_of_not_lt fun hlt => hbefore j hlt hpv

theorem exists_isLeast_positions {t : EnumType} {test : Scalar → Prop} {v : Scalar}
    (hv : v ∈ t.variants) (h : test v) : ∃ i, IsLeast (t.positions test) i := by
  classical
  have hsome : (t.variants.findIdx? (decide <| test ·)).isSome = true := by
    rw [List.findIdx?_isSome, List.any_eq_true]
    exact ⟨v, hv, by simpa using h⟩
  obtain ⟨i, hi⟩ := Option.isSome_iff_exists.mp hsome
  refine ⟨i, ?_⟩
  have hleast := isLeast_positions_iff.mpr hi
  simpa using hleast

/-! ## Keys -/

/-- The key by which a scalar finds a variant at first: as it is, or in small letters. -/
def matchKey : EnumType → Scalar → String
  | catalogued _, s => s.key
  | minted _, s => lowered s.key

end EnumType

/-- A key is found as it is before letter case is left out of account. -/
theorem CataloguedEnum.ordinalForKey_eq (t : CataloguedEnum) (key : String) :
    t.ordinalForKey key = (t.variants.findIdx? (·.key == key)).or
      (t.variants.findIdx? fun v => lowered v.key == lowered key) := by
  have hindex : t.index[key]? = t.variants.findIdx? (·.key == key) := by
    rw [t.index_eq, KeyIndex.getElem?_ofKeys, variants, List.findIdx?_map, List.findIdx?_map]
    rfl
  rw [ordinalForKey, hindex]
  cases t.variants.findIdx? (·.key == key) <;> rfl

namespace EnumType

/-- No variant has the key, even in small letters. -/
def Unmatched (t : EnumType) (key : String) : Prop := ∀ v ∈ t.variants, lowered v.key ≠ lowered key

theorem findIdx?_lowered_eq_none_iff {t : EnumType} {key : String} :
    (t.variants.findIdx? fun v => lowered v.key == lowered key) = none ↔ t.Unmatched key := by
  rw [List.findIdx?_eq_none_iff]
  simp [Unmatched]

theorem Unmatched.findIdx?_exact {t : EnumType} {key : String} (h : t.Unmatched key) :
    t.variants.findIdx? (·.key == key) = none := by
  rw [List.findIdx?_eq_none_iff]
  intro v hv
  have hne : v.key ≠ key := fun he => h v hv (by rw [he])
  simpa using hne

theorem ordinalForKey_eq_none_iff {t : EnumType} {key : String} :
    t.ordinalForKey key = none ↔ t.Unmatched key := by
  cases t with
  | catalogued u =>
    rw [ordinalForKey, u.type.ordinalForKey_eq, Option.or_eq_none_iff]
    constructor
    · rintro ⟨-, hfolded⟩
      exact findIdx?_lowered_eq_none_iff.mp hfolded
    · intro h
      exact ⟨h.findIdx?_exact, findIdx?_lowered_eq_none_iff.mpr h⟩
  | minted u =>
    rw [ordinalForKey, u.type.ordinalForKey_eq]
    exact findIdx?_lowered_eq_none_iff (t := minted u)

/-- **What the index finds.** The least position with the very key, in a catalogued type; where there is
    none, and in a minted type at once, the least position with the key in small letters. -/
theorem ordinalForKey_eq_some_iff {t : EnumType} {key : String} {i : Nat} :
    t.ordinalForKey key = some i ↔
      (t.isMinted = false ∧ IsLeast (t.positions (·.key = key)) i) ∨
      ((t.isMinted = false → ∀ v ∈ t.variants, v.key ≠ key) ∧
        IsLeast (t.positions (lowered ·.key = lowered key)) i) := by
  have hexact : IsLeast (t.positions (·.key = key)) i ↔
      t.variants.findIdx? (·.key == key) = some i := by
    simpa using isLeast_positions_iff (t := t) (p := fun v => v.key == key) (i := i)
  have hfolded : IsLeast (t.positions (lowered ·.key = lowered key)) i ↔
      (t.variants.findIdx? fun v => lowered v.key == lowered key) = some i := by
    simpa using isLeast_positions_iff (t := t) (p := fun v => lowered v.key == lowered key) (i := i)
  have hmiss : (∀ v ∈ t.variants, v.key ≠ key) ↔ t.variants.findIdx? (·.key == key) = none := by
    simp [List.findIdx?_eq_none_iff]
  rw [hexact, hfolded, hmiss]
  cases t with
  | catalogued u =>
    rw [ordinalForKey, u.type.ordinalForKey_eq, Option.or_eq_some_iff]
    simp [isMinted, variants]
  | minted u =>
    rw [ordinalForKey, u.type.ordinalForKey_eq]
    simp [isMinted, variants]

/-! ## The reference -/

/-- How a scalar is resolved, said without an index. -/
inductive Resolves (t : EnumType) (s : Scalar) : Selection → Prop where
  /-- A catalogued type has the very key. -/
  | exact {i : Nat} (known : t.isMinted = false) (least : IsLeast (t.positions (·.key = s.key)) i) :
      Resolves t s ⟨i, .key⟩
  /-- A type has the key in small letters; a catalogued one does not have the very key. -/
  | folded {i : Nat} (inexact : t.isMinted = false → ∀ v ∈ t.variants, v.key ≠ s.key)
      (least : IsLeast (t.positions (lowered ·.key = lowered s.key)) i) : Resolves t s ⟨i, .key⟩
  /-- No variant has the key, and the scalar reads as a position that there is. -/
  | ordinal {n : Nat} (unmatched : t.Unmatched s.key) (reads : s.ordinal? = some n)
      (inside : n < t.size) : Resolves t s ⟨n, .ordinal⟩
  /-- No variant has the key, and the scalar reads as no position that there is. -/
  | fallback (unmatched : t.Unmatched s.key) (outside : ∀ n, s.ordinal? = some n → t.size ≤ n) :
      Resolves t s ⟨0, .fallback⟩

theorem select_of_key {α : Type} [ToScalar α] {t : EnumType} {raw : α} {i : Nat}
    (h : t.ordinalForKey (toScalar raw).key = some i) : t.select raw = ⟨i, .key⟩ := by
  simp [select, h]

theorem select_of_ordinal {α : Type} [ToScalar α] {t : EnumType} {raw : α} {n : Nat}
    (h : t.ordinalForKey (toScalar raw).key = none) (hreads : (toScalar raw).ordinal? = some n)
    (hinside : n < t.size) : t.select raw = ⟨n, .ordinal⟩ := by
  have hsome : (toScalar raw).ordinal?.filter (· < t.size) = some n := by
    rw [Option.filter_eq_some_iff]
    exact ⟨hreads, by simpa using hinside⟩
  simp [select, h, hsome]

theorem select_of_outside {α : Type} [ToScalar α] {t : EnumType} {raw : α}
    (h : t.ordinalForKey (toScalar raw).key = none)
    (houtside : ∀ n, (toScalar raw).ordinal? = some n → t.size ≤ n) :
    t.select raw = ⟨0, .fallback⟩ := by
  have hnone : (toScalar raw).ordinal?.filter (· < t.size) = none := by
    rw [Option.filter_eq_none_iff]
    intro n hn
    simpa using houtside n hn
  simp [select, h, hnone]

theorem select_eq_of_resolves {α : Type} [ToScalar α] {t : EnumType} {raw : α} {r : Selection}
    (h : t.Resolves (toScalar raw) r) : t.select raw = r := by
  cases h with
  | exact known least =>
    exact select_of_key (ordinalForKey_eq_some_iff.mpr (Or.inl ⟨known, least⟩))
  | folded inexact least =>
    -- the rescan of a catalogued type, and the only look of a minted one
    exact select_of_key (ordinalForKey_eq_some_iff.mpr (Or.inr ⟨inexact, least⟩))
  | ordinal unmatched reads inside =>
    exact select_of_ordinal (ordinalForKey_eq_none_iff.mpr unmatched) reads inside
  | fallback unmatched outside =>
    exact select_of_outside (ordinalForKey_eq_none_iff.mpr unmatched) outside

theorem resolves_select {α : Type} [ToScalar α] (t : EnumType) (raw : α) :
    t.Resolves (toScalar raw) (t.select raw) := by
  cases hk : t.ordinalForKey (toScalar raw).key with
  | some i =>
    rw [select_of_key hk]
    rcases ordinalForKey_eq_some_iff.mp hk with ⟨known, least⟩ | ⟨inexact, least⟩
    · exact .exact known least
    · exact .folded inexact least
  | none =>
    have hun := ordinalForKey_eq_none_iff.mp hk
    by_cases hin : ∃ n, (toScalar raw).ordinal? = some n ∧ n < t.size
    · obtain ⟨n, hreads, hinside⟩ := hin
      rw [select_of_ordinal hk hreads hinside]
      exact .ordinal hun hreads hinside
    · have hout : ∀ n, (toScalar raw).ordinal? = some n → t.size ≤ n :=
        fun n hn => Nat.le_of_not_lt fun hlt => hin ⟨n, hn, hlt⟩
      rw [select_of_outside hk hout]
      exact .fallback hun hout

/-- **Selecting is resolving.** -/
theorem select_eq_iff {α : Type} [ToScalar α] {t : EnumType} {raw : α} {r : Selection} :
    t.select raw = r ↔ t.Resolves (toScalar raw) r :=
  ⟨fun h => h ▸ resolves_select t raw, select_eq_of_resolves⟩

theorem Resolves.ordinal_lt_size {t : EnumType} {s : Scalar} {r : Selection}
    (h : t.Resolves s r) (hsize : 0 < t.size) : r.ordinal < t.size := by
  cases h with
  | exact _ least => exact lt_size_of_mem_positions least.1
  | folded _ least => exact lt_size_of_mem_positions least.1
  | ordinal _ _ inside => exact inside
  | fallback _ _ => exact hsize

theorem Resolves.ordinal_eq_zero {t : EnumType} {s : Scalar} {r : Selection}
    (h : t.Resolves s r) (hsize : t.size = 0) : r.ordinal = 0 := by
  have hempty : ∀ i, ¬ i < t.size := by simp [hsize]
  cases h with
  | exact _ least => exact absurd (lt_size_of_mem_positions least.1) (hempty _)
  | folded _ least => exact absurd (lt_size_of_mem_positions least.1) (hempty _)
  | ordinal _ _ inside => exact absurd inside (hempty _)
  | fallback _ _ => rfl

/-- A type with members selects one of them. -/
theorem ordinalOf_lt_size {α : Type} [ToScalar α] {t : EnumType} (hsize : 0 < t.size) (raw : α) :
    t.ordinalOf raw < t.size :=
  (resolves_select t raw).ordinal_lt_size hsize

/-- A type without members selects the first position all the same. -/
theorem ordinalOf_eq_zero {α : Type} [ToScalar α] {t : EnumType} (hsize : t.size = 0) (raw : α) :
    t.ordinalOf raw = 0 :=
  (resolves_select t raw).ordinal_eq_zero hsize

/-! ## Going out and coming in -/

/-- The scalar of a member selects the first member that shares its key. -/
theorem select_variant {t : EnumType} {s : Scalar} (hs : s ∈ t.variants) :
    ∃ j, IsLeast (t.positions (t.matchKey · = t.matchKey s)) j ∧ t.select s = ⟨j, .key⟩ := by
  obtain ⟨j, hj⟩ : ∃ j, IsLeast (t.positions (t.matchKey · = t.matchKey s)) j :=
    exists_isLeast_positions hs rfl
  refine ⟨j, hj, select_eq_iff.mpr ?_⟩
  cases t with
  | catalogued u => exact .exact rfl hj
  | minted u => exact .folded (fun h => absurd h (by simp [isMinted])) hj

/-- Where no two members share a key, the scalar of each selects that member. -/
theorem select_variant_of_nodup {t : EnumType} (hkeys : (t.variants.map t.matchKey).Nodup) {i : Nat}
    {s : Scalar} (hi : t.valueAt? i = some s) : t.select s = ⟨i, .key⟩ := by
  obtain ⟨j, ⟨⟨v, hv, hshare⟩, _⟩, hselect⟩ := select_variant (List.mem_of_getElem? hi)
  have hj : (t.variants.map t.matchKey)[j]? = some (t.matchKey v) := by simp [hv]
  have hi' : (t.variants.map t.matchKey)[i]? = some (t.matchKey s) := by
    rw [valueAt?] at hi
    simp [hi]
  have hlt : j < (t.variants.map t.matchKey).length := (List.getElem?_eq_some_iff.mp hj).1
  have hji : j = i := (List.getElem?_inj hlt hkeys).mp (by rw [hj, hi', hshare])
  rw [hselect, hji]

/-- **Selecting agrees with a scan of the variants.** Whatever is sent, it is resolved as `Resolves` says,
    where what reads as a position is an integer that is not negative or the spelling of one; in a type with
    members it is resolved to a position that there is. The scalar of a member comes back by its key, to
    the first member that shares the key, which is the member itself exactly if none before it does. -/
theorem select_agrees_with_scan (t : EnumType) :
    (∀ {α : Type} [ToScalar α] (raw : α) (r : Selection),
      t.select raw = r ↔ t.Resolves (toScalar raw) r) ∧
    (∀ (s : Scalar) (n : Nat), s.ordinal? = some n ↔ s.ReadsAs n) ∧
    (0 < t.size → ∀ {α : Type} [ToScalar α] (raw : α), t.ordinalOf raw < t.size) ∧
    (∀ (i : Nat) (s : Scalar), t.valueAt? i = some s →
      ∃ j, j ≤ i ∧ t.select s = ⟨j, .key⟩ ∧
        IsLeast (t.positions (t.matchKey · = t.matchKey s)) j ∧
        (j = i ↔ ∀ k < i, ∀ v, t.valueAt? k = some v → t.matchKey v ≠ t.matchKey s)) := by
  refine ⟨fun _ _ => select_eq_iff, fun _ _ => Scalar.ordinal?_eq_some_iff,
    fun hsize _ _ raw => ordinalOf_lt_size hsize raw, ?_⟩
  intro i s hi
  obtain ⟨j, hleast, hselect⟩ := select_variant (List.mem_of_getElem? hi)
  have hle : j ≤ i := hleast.2 ⟨s, hi, rfl⟩
  refine ⟨j, hle, hselect, hleast, ?_⟩
  constructor
  · rintro rfl k hk v hv hshare
    exact absurd (hleast.2 ⟨v, hv, hshare⟩) (Nat.not_le_of_lt hk)
  · intro hfirst
    obtain ⟨v, hv, hshare⟩ := hleast.1
    rcases Nat.lt_or_eq_of_le hle with hlt | heq
    · exact absurd hshare (hfirst j hlt v hv)
    · exact heq

/-- A minted type in which two members differ in letter case alone. -/
def loudness : EnumType :=
  .minted ⟨⟨0, 0⟩, .make "Loudness" [.string "Low", .string "low", .string "high"]⟩

/-- A padded number with a sign is no key and selects the member at that position, a greater one selects the
    first member, and the second member comes back as the first. -/
theorem select_agrees_with_scan_loudness :
    loudness.Unmatched (Scalar.string " +2 ").key ∧ (Scalar.string " +2 ").ordinal? = some 2 ∧
      loudness.select " +2 " = ⟨2, .ordinal⟩ ∧ loudness.select "3" = ⟨0, .fallback⟩ ∧
      (0 < loudness.size ∧ loudness.ordinalOf " +2 " < loudness.size) ∧
      loudness.valueAt? 1 = some (.string "low") ∧ loudness.select (Scalar.string "low") = ⟨0, .key⟩ := by
  obtain ⟨hscan, hreads, hinside, hback⟩ := select_agrees_with_scan loudness
  have hsize : 0 < loudness.size := by decide
  have hunmatched : loudness.Unmatched (Scalar.string " +2 ").key := by unfold Unmatched; decide
  have hspells2 : Number.Spells ['+', '2'] 2 := .plus (List.cons_ne_nil _ _) (List.forall_mem_singleton.mpr rfl)
  have hspells3 : Number.Spells ['3'] 3 := .unsigned (List.cons_ne_nil _ _) (List.forall_mem_singleton.mpr rfl)
  have hreads2 : (Scalar.string " +2 ").ordinal? = some 2 := (hreads _ _).mpr (.string hspells2 (by decide))
  have hreads3 : (Scalar.string "3").ordinal? = some 3 := (hreads _ _).mpr (.string hspells3 (by decide))
  have hselect3 : loudness.select "3" = ⟨0, .fallback⟩ := by
    refine (hscan "3" _).mpr (.fallback (by unfold Unmatched; decide) fun n hn => ?_)
    obtain rfl : 3 = n := Option.some.inj (hreads3.symm.trans hn)
    decide
  obtain ⟨j, hle, hselect, -, hself⟩ := hback 1 (.string "low") rfl
  have hj : j = 0 := by
    have hne : j ≠ 1 := fun h => hself.mp h 0 Nat.one_pos (.string "Low") rfl (by decide)
    omega
  exact ⟨hunmatched, hreads2, (hscan " +2 " _).mpr (.ordinal hunmatched hreads2 (by decide)), hselect3,
    ⟨hsize, hinside hsize " +2 "⟩, rfl, hj ▸ hselect⟩

end EnumType

end PinTypes
