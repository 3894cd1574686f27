import PinTypes.Enumeration.Mint
import PinTypes.Proofs.Enumeration.MintKey
import PinTypes.Proofs.Identifier

/-!
# `PinTypes.Proofs.Enumeration.Minting` — what a mint keeps

A mint gives out what it has under a mint key, or makes it. The module says once what that can do to a
mint (`obtainNamed_cases`: a hit changes nothing, a miss adds one fresh instance) and derives the
invariant `Sound` from it: types are filed under their own mint keys, are never without variants, carry
the source of the mint and different serials, and are as many as the mint counts.

Together with the unambiguous mint keys this makes a signature, a name and a list of keys, the same
thing as an instance (`Sound.stamp_eq_iff`).

The name is resolved from a declared text, a fallback and the default of the mint. The rules that decide
between them are `Mint.HintOf` and `Mint.NameOf`, which know nothing of mints; every mint that began under a
default resolves as they say (`Mint.nameOf_iff`).

## Contents
- **Instances kept.** `MintedEnum.signature`, `Mint.Keeps`, `Mint.Sound`.
- **New mints.** `Mint.named_sound`.
- **Names.** `Mint.HintOf`, `Mint.NameOf`, `Mint.nameOf_iff`; `Mint.Sound.typeName_plain`.
- **One order.** `Mint.obtainNamed_cases`, `Mint.Grows`, `Mint.obtainNamed_spec`.
- **Known and unknown signatures.** `Mint.Knows`, `Mint.Keeps.obtainNamed_eq`, `Mint.AddsOne`.
-/

namespace PinTypes

/-- A name and a list of keys. -/
abbrev Signature := String × List String

/-- The name of a type and the keys of its variants. -/
def MintedEnum.signature (t : MintedEnum) : Signature := (t.name, t.variants.map Scalar.key)

theorem mintKey_congr {t u : MintedEnum} (h : t.signature = u.signature) : t.mintKey = u.mintKey := by
  obtain ⟨hname, hkeys⟩ := Prod.mk.inj h
  rw [MintedEnum.mintKey, MintedEnum.mintKey, mintKey, mintKey, hname, hkeys]

namespace Mint

/-! ## Instances kept -/

/-- The mint keeps this instance, under its own mint key. -/
def Keeps (m : Mint) (t : Stamped MintedEnum) : Prop := m.types[t.type.mintKey]? = some t

/-- **The invariant of reachable mints.** -/
structure Sound (m : Mint) : Prop where
  plainDefault : ':' ∉ m.defaultName.toList
  /-- A type stands under its own mint key and no other. -/
  filed : ∀ {k : String} {t : Stamped MintedEnum}, m.types[k]? = some t → k = t.type.mintKey
  plainName : ∀ {t : Stamped MintedEnum}, m.Keeps t → ':' ∉ t.type.name.toList
  inhabited : ∀ {t : Stamped MintedEnum}, m.Keeps t → t.type.variants ≠ []
  source_eq : ∀ {t : Stamped MintedEnum}, m.Keeps t → t.stamp.source = m.source
  serial_lt : ∀ {t : Stamped MintedEnum}, m.Keeps t → t.stamp.serial < m.made
  serial_inj : ∀ {t u : Stamped MintedEnum}, m.Keeps t → m.Keeps u →
    t.stamp.serial = u.stamp.serial → t = u
  size_eq : m.types.size = m.made

theorem Sound.keeps_of_getElem? {m : Mint} (h : m.Sound) {k : String} {t : Stamped MintedEnum}
    (ht : m.types[k]? = some t) : m.Keeps t := by
  unfold Keeps
  rw [← h.filed ht]
  exact ht

/-- Two instances kept are the same if their signatures are. -/
theorem Keeps.eq_of_signature {m : Mint} {t u : Stamped MintedEnum} (ht : m.Keeps t)
    (hu : m.Keeps u) (h : t.type.signature = u.type.signature) : t = u := by
  unfold Keeps at ht hu
  rw [mintKey_congr h, hu] at ht
  exact (Option.some.inj ht).symm

/-- **Instances kept are told apart by their signatures.** -/
theorem Sound.stamp_eq_iff {m : Mint} (h : m.Sound) {t u : Stamped MintedEnum} (ht : m.Keeps t)
    (hu : m.Keeps u) : t.stamp = u.stamp ↔ t.type.signature = u.type.signature := by
  constructor
  · intro hstamp
    rw [h.serial_inj ht hu (congrArg Stamp.serial hstamp)]
  · intro hsig
    rw [ht.eq_of_signature hu hsig]

theorem isOwn_of_keeps {m : Mint} {t : Stamped MintedEnum} (h : m.Keeps t) : m.isOwn t = true := by
  unfold Keeps at h
  simp [isOwn, h]

/-- An instance with the stamp of another source is not the mint's own. -/
theorem Sound.isOwn_foreign {m : Mint} (h : m.Sound) {t : Stamped MintedEnum}
    (hsource : t.stamp.source ≠ m.source) : m.isOwn t = false := by
  unfold isOwn
  cases hu : m.types[t.type.mintKey]? with
  | none => rfl
  | some u =>
    have hstamp : u.stamp ≠ t.stamp := by
      intro he
      have hkept := h.source_eq (h.keeps_of_getElem? hu)
      rw [he] at hkept
      exact hsource hkept
    simpa using hstamp

/-! ## New mints -/

theorem defaultName_named (source : Nat) (defaultName : String) :
    (named source defaultName).defaultName =
      if Identifier.ofText defaultName = "" then "DynamicEnum" else Identifier.ofText defaultName := by
  unfold named
  dsimp only

theorem named_defaultName_plain (source : Nat) (defaultName : String) :
    ':' ∉ (named source defaultName).defaultName.toList := by
  rw [defaultName_named]
  split
  · decide
  · exact Identifier.colon_notMem_ofText defaultName

theorem not_keeps_named {source : Nat} {defaultName : String} {t : Stamped MintedEnum} :
    ¬ (named source defaultName).Keeps t := by
  simp [Keeps, named]

theorem named_sound (source : Nat) (defaultName : String) : (named source defaultName).Sound where
  plainDefault := named_defaultName_plain source defaultName
  filed := by intro k t h; simp [named] at h
  plainName := fun h => absurd h not_keeps_named
  inhabited := fun h => absurd h not_keeps_named
  source_eq := fun h => absurd h not_keeps_named
  serial_lt := fun h => absurd h not_keeps_named
  serial_inj := fun h => absurd h not_keeps_named
  size_eq := rfl

/-! ## Names -/

/-- The text that a type is named after: the declared one if there is a character in it that is not blank,
    else the fallback. -/
inductive HintOf (declared : Option String) (fallback : String) : String → Prop where
  | declared {text : String} (given : declared = some text)
      (visible : ∃ c ∈ text.toList, Text.isBlank c = false) : HintOf declared fallback text
  | fallback (blank : ∀ text, declared = some text → ∀ c ∈ text.toList, Text.isBlank c = true) :
      HintOf declared fallback fallback

/-- The name that a type gets: the text that it is named after, made an identifier. If nothing is left of
    that, it is the default made an identifier, and a name of last resort if nothing is left of that either. -/
inductive NameOf (defaultName : String) (declared : Option String) (fallback : String) : String → Prop where
  | hint {text : String} (after : HintOf declared fallback text) (left : Identifier.ofText text ≠ "") :
      NameOf defaultName declared fallback (Identifier.ofText text)
  | default {text : String} (after : HintOf declared fallback text) (nothing : Identifier.ofText text = "")
      (left : Identifier.ofText defaultName ≠ "") :
      NameOf defaultName declared fallback (Identifier.ofText defaultName)
  | lastResort {text : String} (after : HintOf declared fallback text)
      (nothing : Identifier.ofText text = "") (neither : Identifier.ofText defaultName = "") :
      NameOf defaultName declared fallback "DynamicEnum"

section

variable {defaultName fallback : String} {declared : Option String}

theorem HintOf.unique {text text' : String} (h : HintOf declared fallback text)
    (h' : HintOf declared fallback text') : text = text' := by
  have hidden {s : String} (hblank : ∀ c ∈ s.toList, Text.isBlank c = true) :
      ¬ ∃ c ∈ s.toList, Text.isBlank c = false := by
    simpa using hblank
  cases h with
  | declared given visible =>
    cases h' with
    | declared given' _ => exact Option.some.inj (given.symm.trans given')
    | fallback blank' => exact absurd visible (hidden (blank' _ given))
  | fallback blank =>
    cases h' with
    | declared given' visible' => exact absurd visible' (hidden (blank _ given'))
    | fallback _ => rfl

/-- A declared text that is blank is passed over. -/
theorem hintOf_getD (declared : Option String) (fallback : String) :
    HintOf declared fallback ((declared.filter (!Text.isBlankText ·)).getD fallback) := by
  cases htaken : declared.filter (!Text.isBlankText ·) with
  | none =>
    refine .fallback fun text htext => ?_
    have hblank : Text.isBlankText text = true := by
      simpa using Option.filter_eq_none_iff.mp htaken text htext
    exact List.all_eq_true.mp hblank
  | some text =>
    obtain ⟨hdeclared, hvisible⟩ := Option.filter_eq_some_iff.mp htaken
    exact .declared hdeclared (by simpa [Text.isBlankText] using hvisible)

theorem HintOf.typeName_eq {text : String} (h : HintOf declared fallback text) (m : Mint) :
    m.typeName declared fallback =
      if Identifier.ofText text = "" then m.defaultName else Identifier.ofText text := by
  rw [h.unique (hintOf_getD declared fallback)]
  rfl

/-- **The name that is resolved.** However a mint has grown since it began, it resolves a name as the rules
    do for the default that it began under. -/
theorem nameOf_iff {m : Mint} {source : Nat} (h : m.defaultName = (named source defaultName).defaultName)
    {name : String} :
    NameOf defaultName declared fallback name ↔ m.typeName declared fallback = name := by
  rw [defaultName_named] at h
  constructor
  · intro hname
    cases hname with
    | hint after left => rw [after.typeName_eq, if_neg left]
    | default after nothing left => rw [after.typeName_eq, if_pos nothing, h, if_neg left]
    | lastResort after nothing neither =>
      rw [after.typeName_eq, if_pos nothing, h, if_pos neither]
  · rintro rfl
    have hhint := hintOf_getD declared fallback
    rw [hhint.typeName_eq]
    split
    · rename_i hnothing
      rw [h]
      split
      · rename_i hnothing'
        exact .lastResort hhint hnothing hnothing'
      · rename_i hleft
        exact .default hhint hnothing hleft
    · rename_i hleft
      exact .hint hhint hleft

end

/-- The names that a mint gives have no colon. -/
theorem Sound.typeName_plain {m : Mint} (h : m.Sound) (declared : Option String)
    (fallback : String) : ':' ∉ (m.typeName declared fallback).toList := by
  unfold typeName
  dsimp only
  split
  · exact h.plainDefault
  · exact Identifier.colon_notMem_ofText _

/-! ## One order -/

/-- The instance that the mint would make next. -/
def fresh (m : Mint) (name : String) (vs : List Scalar) : Stamped MintedEnum :=
  ⟨⟨m.source, m.made⟩, .make name vs⟩

theorem signature_fresh (m : Mint) (name : String) (vs : List Scalar) :
    (m.fresh name vs).type.signature = (name, vs.map Scalar.key) := rfl

/-- The mint with one more instance. -/
def adding (m : Mint) (t : Stamped MintedEnum) : Mint :=
  { m with made := m.made + 1, types := m.types.insert t.type.mintKey t }

/-- **An order hits or adds.** A mint key that is known gives the instance kept under it and changes
    nothing; any other adds one fresh instance. -/
theorem obtainNamed_cases (m : Mint) (name : String) (vs : List Scalar) :
    (∃ t, m.types[mintKey name vs]? = some t ∧ m.obtainNamed name vs = (t, m)) ∨
    (m.types[mintKey name vs]? = none ∧
      m.obtainNamed name vs = (m.fresh name vs, m.adding (m.fresh name vs))) := by
  unfold obtainNamed
  cases hk : m.types[mintKey name vs]? with
  | some t => exact Or.inl ⟨t, rfl, by simp only [hk]⟩
  | none => exact Or.inr ⟨rfl, by simp only [hk]; rfl⟩

/-- What is kept once an instance is added under a free mint key. -/
theorem keeps_adding {m : Mint} {t u : Stamped MintedEnum}
    (hfree : m.types[t.type.mintKey]? = none) :
    (m.adding t).Keeps u ↔ m.Keeps u ∨ u = t := by
  unfold Keeps adding
  rw [Std.TreeMap.getElem?_insert]
  by_cases hk : t.type.mintKey = u.type.mintKey
  · -- under the new mint key nothing was kept, so only the new instance is
    have hc : compare t.type.mintKey u.type.mintKey = .eq := by
      rw [hk]
      exact Std.ReflCmp.compare_self
    rw [if_pos hc, ← hk, hfree]
    simp [eq_comm]
  · have hc : compare t.type.mintKey u.type.mintKey ≠ .eq :=
      fun h => hk (Std.LawfulEqOrd.eq_of_compare h)
    rw [if_neg hc]
    exact ⟨Or.inl, fun h => h.elim id (fun he => absurd (by rw [he]) hk)⟩

theorem keeps_adding_fresh {m : Mint} {name : String} {vs : List Scalar} {u : Stamped MintedEnum}
    (hfree : m.types[mintKey name vs]? = none) :
    (m.adding (m.fresh name vs)).Keeps u ↔ m.Keeps u ∨ u = m.fresh name vs :=
  keeps_adding (t := m.fresh name vs) hfree

/-- Under a free mint key nothing of that name and those keys is kept. -/
theorem Keeps.signature_ne_of_free {m : Mint} {name : String} {vs : List Scalar}
    (hfree : m.types[mintKey name vs]? = none) {t : Stamped MintedEnum} (ht : m.Keeps t) :
    t.type.signature ≠ (name, vs.map Scalar.key) := by
  intro hsig
  have hkey : t.type.mintKey = mintKey name vs := mintKey_congr (u := .make name vs) hsig
  unfold Keeps at ht
  rw [hkey, hfree] at ht
  cases ht

theorem filed_adding {m : Mint} (h : m.Sound) {t u : Stamped MintedEnum} {k : String}
    (hk : (m.adding t).types[k]? = some u) : k = u.type.mintKey := by
  unfold adding at hk
  rw [Std.TreeMap.getElem?_insert] at hk
  split at hk
  · rename_i hc
    rw [← Option.some.inj hk]
    exact (Std.LawfulEqOrd.eq_of_compare hc).symm
  · exact h.filed hk

theorem size_adding_fresh {m : Mint} {name : String} {vs : List Scalar}
    (hfree : m.types[mintKey name vs]? = none) :
    (m.adding (m.fresh name vs)).types.size = m.types.size + 1 := by
  have hnew : ¬ m.types.contains (mintKey name vs) = true := by
    rw [Std.TreeMap.contains_eq_isSome_getElem?, hfree]
    simp
  show (m.types.insert (mintKey name vs) (m.fresh name vs)).size = m.types.size + 1
  rw [Std.TreeMap.size_insert, if_neg hnew]

/-- Adding a fresh instance keeps the mint sound. -/
theorem Sound.adding_fresh {m : Mint} (h : m.Sound) {name : String} {vs : List Scalar}
    (hname : ':' ∉ name.toList) (hvs : vs ≠ []) (hfree : m.types[mintKey name vs]? = none) :
    (m.adding (m.fresh name vs)).Sound := by
  have hkeeps : ∀ {u}, (m.adding (m.fresh name vs)).Keeps u → m.Keeps u ∨ u = m.fresh name vs :=
    fun hu => (keeps_adding_fresh hfree).mp hu
  refine ⟨h.plainDefault, filed_adding h, ?_, ?_, ?_, ?_, ?_, ?_⟩
  · intro u hu
    rcases hkeeps hu with hu | rfl
    · exact h.plainName hu
    · exact hname
  · intro u hu
    rcases hkeeps hu with hu | rfl
    · exact h.inhabited hu
    · exact hvs
  · intro u hu
    rcases hkeeps hu with hu | rfl
    · exact h.source_eq hu
    · rfl
  · intro u hu
    rcases hkeeps hu with hu | rfl
    · exact Nat.lt_succ_of_lt (h.serial_lt hu)
    · exact Nat.lt_succ_self m.made
  · -- the fresh serial is the count, which no serial given so far has reached
    intro u w hu hw hs
    rcases hkeeps hu with hu | rfl <;> rcases hkeeps hw with hw | rfl
    · exact h.serial_inj hu hw hs
    · exact absurd hs (Nat.ne_of_lt (h.serial_lt hu))
    · exact absurd hs.symm (Nat.ne_of_lt (h.serial_lt hw))
    · rfl
  · rw [size_adding_fresh hfree, h.size_eq]
    rfl

/-- What stands under the mint key of a name and keys is of that name and those keys. -/
theorem Sound.signature_of_getElem? {m : Mint} (h : m.Sound) {name : String} {vs : List Scalar}
    (hname : ':' ∉ name.toList) (hvs : vs ≠ []) {t : Stamped MintedEnum}
    (ht : m.types[mintKey name vs]? = some t) :
    t.type.signature = (name, vs.map Scalar.key) := by
  have hkept : m.Keeps t := h.keeps_of_getElem? ht
  obtain ⟨hn, hk⟩ := (mintKey_eq_iff hname (h.plainName hkept) hvs (h.inhabited hkept)).mp
    (h.filed ht)
  rw [MintedEnum.signature, hn, hk]

/-- What a run never changes, and what it never gives up. -/
structure Grows (m n : Mint) : Prop where
  source_eq : n.source = m.source
  defaultName_eq : n.defaultName = m.defaultName
  keeps : ∀ {t : Stamped MintedEnum}, m.Keeps t → n.Keeps t

theorem Grows.refl (m : Mint) : m.Grows m := ⟨rfl, rfl, id⟩

theorem Grows.trans {m n o : Mint} (h : m.Grows n) (h' : n.Grows o) : m.Grows o :=
  ⟨h'.source_eq.trans h.source_eq, h'.defaultName_eq.trans h.defaultName_eq,
    fun ht => h'.keeps (h.keeps ht)⟩

/-- **An order is served.** From a sound mint comes an instance of the name and keys asked for, and a
    sound mint that keeps it beside all that was kept before. -/
theorem obtainNamed_spec {m : Mint} (h : m.Sound) {name : String} {vs : List Scalar}
    (hname : ':' ∉ name.toList) (hvs : vs ≠ []) :
    (m.obtainNamed name vs).2.Sound ∧ m.Grows (m.obtainNamed name vs).2 ∧
    (m.obtainNamed name vs).2.Keeps (m.obtainNamed name vs).1 ∧
    (m.obtainNamed name vs).1.type.signature = (name, vs.map Scalar.key) := by
  rcases m.obtainNamed_cases name vs with ⟨t, ht, hres⟩ | ⟨hfree, hres⟩
  · -- the instance found is filed under the mint key asked for, and mint keys are unambiguous
    rw [hres]
    exact ⟨h, Grows.refl m, h.keeps_of_getElem? ht, h.signature_of_getElem? hname hvs ht⟩
  · rw [hres]
    exact ⟨h.adding_fresh hname hvs hfree,
      ⟨rfl, rfl, fun ht => (keeps_adding_fresh hfree).mpr (Or.inl ht)⟩,
      (keeps_adding_fresh hfree).mpr (Or.inr rfl), rfl⟩

/-! ## Known and unknown signatures -/

/-- A type of that name and those keys is kept. -/
def Knows (m : Mint) (s : Signature) : Prop := ∃ t, m.Keeps t ∧ t.type.signature = s

/-- An instance that is kept is given to every order of its name and keys, and nothing happens. -/
theorem Keeps.obtainNamed_eq {m : Mint} {t : Stamped MintedEnum} (ht : m.Keeps t) {name : String}
    {vs : List Scalar} (hsig : t.type.signature = (name, vs.map Scalar.key)) :
    m.obtainNamed name vs = (t, m) := by
  have hkey : t.type.mintKey = mintKey name vs := mintKey_congr (u := .make name vs) hsig
  have hfound : m.types[mintKey name vs]? = some t := by
    rw [← hkey]
    exact ht
  simp [obtainNamed, hfound]

/-- Under a signature that is not known there is nothing, so a fresh instance is added. -/
theorem Sound.obtainNamed_of_not_knows {m : Mint} (h : m.Sound) {name : String} {vs : List Scalar}
    (hname : ':' ∉ name.toList) (hvs : vs ≠ [])
    (hnew : ¬ m.Knows (name, vs.map Scalar.key)) :
    m.types[mintKey name vs]? = none ∧
      m.obtainNamed name vs = (m.fresh name vs, m.adding (m.fresh name vs)) := by
  rcases m.obtainNamed_cases name vs with ⟨t, ht, -⟩ | hmiss
  · exact absurd ⟨t, h.keeps_of_getElem? ht, h.signature_of_getElem? hname hvs ht⟩ hnew
  · exact hmiss

/-- The mint `n` is `m` with exactly one more type, which has that name and those keys. Whatever `m` kept
    stands where it stood. -/
structure AddsOne (m n : Mint) (s : Signature) : Prop where
  stats_eq : n.stats = ⟨m.size + 1, m.made + 1⟩
  added : ∃ t, ¬ m.Keeps t ∧ t.type.signature = s ∧ ∀ u, n.Keeps u ↔ m.Keeps u ∨ u = t
  unchanged : ∀ (k : String) (u : Stamped MintedEnum), m.types[k]? = some u → n.types[k]? = some u

theorem addsOne_fresh {m : Mint} {name : String} {vs : List Scalar}
    (hfree : m.types[mintKey name vs]? = none) :
    m.AddsOne (m.adding (m.fresh name vs)) (name, vs.map Scalar.key) where
  stats_eq := by
    show (⟨(m.adding (m.fresh name vs)).types.size, m.made + 1⟩ : Stats) = ⟨m.types.size + 1, m.made + 1⟩
    rw [size_adding_fresh hfree]
  added :=
    ⟨m.fresh name vs, fun hkept => hkept.signature_ne_of_free hfree rfl, rfl,
      fun _ => keeps_adding_fresh hfree⟩
  unchanged := by
    intro k u hk
    show (m.types.insert (mintKey name vs) (m.fresh name vs))[k]? = some u
    have hne : compare (mintKey name vs) k ≠ .eq := by
      intro hc
      rw [Std.LawfulEqOrd.eq_of_compare hc, hk] at hfree
      cases hfree
    rw [Std.TreeMap.getElem?_insert, if_neg hne, hk]

end Mint

end PinTypes
