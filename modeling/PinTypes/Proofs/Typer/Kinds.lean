import PinTypes.Proofs.Enumeration.Minting
import PinTypes.Proofs.SchemaType.Classes
import PinTypes.Proofs.Text.Blank
import PinTypes.Typer

/-!
# `PinTypes.Proofs.Typer.Kinds` — what a typer asks of the mint

A typer has one use for the mint it is given: an enumerated type that lists values and is not in the
catalog. `Typer.NeedsMint` says so without running anything. If it holds, the kind is the type that the
mint gives for the name and the scalars (`kindFor_of_needsMint`); if it fails, the kind is the same whatever
the mint and the pin are, and the mint is given back as it was (`kindFor_of_not_needsMint`). These two
equations say all that a typer can do, and what follows here is read off them.

## Contents
- **Names and words.** `SchemaType.kind_eq_enumeration_iff`, `Mint.typeName_of_not_blank`.
- **Needing the mint.** `Typer.NeedsMint`, `kindFor_of_needsMint`, `kindFor_of_not_needsMint`; what the mint is
  asked for, `signatureFor_eq_iff`.
- **The mint afterwards.** `kindFor_sound`, `keeps_of_kindFor`, `kindFor_addsOne`, `kindFor_unchanged`.
- **Asking again.** `kindFor_again`, and `kindFor_pin_irrelevant` for types with a name of their own.
-/

namespace PinTypes

/-! ## Names and words -/

namespace SchemaType

theorem kind_eq_enumeration_iff {s : SchemaType} : s.kind = .enumeration ↔ s.kindName = "enum" :=
  (Kind.ofName_eq_iff (by decide)).trans List.mem_singleton

/-- The scalars that the listed values stand for. -/
def scalars (s : SchemaType) : List Scalar := s.valueList.map toScalar

/-- A name that is read is not blank. -/
theorem not_blank_of_name? {s : SchemaType} {name : String} (h : s.name? = some name) :
    Text.isBlankText name = false := by
  obtain ⟨hmap, hne⟩ := Option.filter_eq_some_iff.mp h
  obtain ⟨declared, -, rfl⟩ := Option.map_eq_some_iff.mp hmap
  have hne : Text.trimmed declared ≠ "" := by simpa using hne
  rw [Bool.eq_false_iff]
  intro hblank
  rw [← Text.trimmed_eq_empty_iff, Text.trimmed_trimmed] at hblank
  exact hne hblank

end SchemaType

/-- A declared name leaves no room for the fallback. -/
theorem Mint.typeName_of_not_blank (m : Mint) {name : String} (h : Text.isBlankText name = false)
    (fallback other : String) : m.typeName (some name) fallback = m.typeName (some name) other := by
  simp [typeName, Option.filter, h]

namespace Typer

/-! ## Needing the mint -/

/-- Whether the kind is a type from the mint: the schema type is an enumerated one, has no name that is in
    the catalog, and lists values. -/
structure NeedsMint (t : Typer) (s : SchemaType) : Prop where
  isEnumeration : s.kindName = "enum"
  uncatalogued : ∀ name, s.name? = some name → t.catalog.find? name = none
  listed : s.valueList ≠ []

/-- The name of the type that the mint is asked for. -/
def nameFor (t : Typer) (pin : Option String) (s : SchemaType) (m : Mint) : String :=
  m.typeName s.name? (t.settings.fallbackName pin)

/-- The name and the keys that the mint is asked for. -/
def signatureFor (t : Typer) (pin : Option String) (s : SchemaType) (m : Mint) : Signature :=
  (t.nameFor pin s m, s.scalars.map Scalar.key)

/-- What the mint is asked for, said by the rules for names. -/
theorem signatureFor_eq_iff {t : Typer} {pin : Option String} {s : SchemaType} {m : Mint} {source : Nat}
    {defaultName : String} (h : m.defaultName = (Mint.named source defaultName).defaultName)
    {asked : Signature} :
    t.signatureFor pin s m = asked ↔
      Mint.NameOf defaultName s.name? (t.settings.fallbackName pin) asked.1 ∧
        s.scalars.map Scalar.key = asked.2 := by
  rw [Mint.nameOf_iff h, signatureFor, nameFor, Prod.ext_iff]

theorem NeedsMint.scalars_ne_nil {t : Typer} {s : SchemaType} (h : t.NeedsMint s) : s.scalars ≠ [] := by
  simpa [SchemaType.scalars] using h.listed

/-- Without a catalog, every list of values needs the mint. -/
theorem needsMint_of_empty (source : Nat) (settings : Settings) (name : String) {values : List Json}
    (h : values ≠ []) : (⟨.empty source, settings⟩ : Typer).NeedsMint (.enumeration name values) where
  isEnumeration := by
    show canonicalWord "enum" = "enum"
    decide
  uncatalogued := by
    intro declared _
    simp [Catalog.find?, Catalog.empty]
  listed := h

theorem bind_find?_eq_none_iff {t : Typer} {s : SchemaType} :
    s.name?.bind (t.catalog.findFor? · s.valueList) = none ↔
      ∀ name, s.name? = some name → t.catalog.find? name = none := by
  rw [Option.bind_eq_none_iff]
  rfl

theorem kindFor_of_needsMint {t : Typer} {s : SchemaType} (h : t.NeedsMint s) (pin : Option String)
    (m : Mint) :
    t.kindFor pin s m =
      (.enumeration (.minted (m.obtainNamed (t.nameFor pin s m) s.scalars).1),
        (m.obtainNamed (t.nameFor pin s m) s.scalars).2) := by
  have hkind : s.kind = .enumeration := SchemaType.kind_eq_enumeration_iff.mpr h.isEnumeration
  have hfind : s.name?.bind (t.catalog.findFor? · s.valueList) = none :=
    bind_find?_eq_none_iff.mpr h.uncatalogued
  have hlisted : s.valueList.isEmpty = false := by simpa using h.listed
  simp only [kindFor, hkind, enumType, hfind, Mint.obtain, hlisted, Bool.false_eq_true, if_false,
    Option.map_some]
  rfl

theorem kindFor_of_ne_enumeration (t : Typer) {s : SchemaType} (hkind : s.kind ≠ .enumeration) :
    ∃ k : PinKind, (∀ e, k ≠ .enumeration e) ∧ ∀ pin m, t.kindFor pin s m = (k, m) := by
  cases h : s.kind with
  | enumeration => exact absurd h hkind
  | union =>
    refine ⟨s.family.pinKind, ?_, fun pin m => by simp only [kindFor, h]⟩
    cases s.family <;> exact fun e => nofun
  | _ =>
    refine ⟨(t.kindFor none s (.named 0 "")).1, ?_, fun pin m => ?_⟩
    · simp [kindFor, h]
    · simp only [kindFor, h]

/-- **Without the mint.** The kind does not depend on the pin or on the mint, which is left as it was. -/
theorem kindFor_of_not_needsMint {t : Typer} {s : SchemaType} (h : ¬ t.NeedsMint s) :
    ∃ k : PinKind, (∀ u, k ≠ .enumeration (.minted u)) ∧ ∀ pin m, t.kindFor pin s m = (k, m) := by
  by_cases hkind : s.kind = .enumeration
  · cases hfind : s.name?.bind (t.catalog.findFor? · s.valueList) with
    | some known =>
      refine ⟨.enumeration (.catalogued known), fun u => nofun, fun pin m => ?_⟩
      simp only [kindFor, hkind, enumType, hfind]
    | none =>
      -- the type is not in the catalog, so it must be that it lists nothing
      have hempty : s.valueList.isEmpty = true := by
        rw [List.isEmpty_iff]
        by_contra hlisted
        exact h ⟨SchemaType.kind_eq_enumeration_iff.mp hkind, bind_find?_eq_none_iff.mp hfind, hlisted⟩
      refine ⟨.text, fun u => nofun, fun pin m => ?_⟩
      simp only [kindFor, hkind, enumType, hfind, Mint.obtain, hempty, if_true, Option.map_none]
  · obtain ⟨k, hk, hsame⟩ := t.kindFor_of_ne_enumeration hkind
    exact ⟨k, fun u => hk (.minted u), hsame⟩

/-! ## The mint afterwards -/

variable {t : Typer} {s : SchemaType} {m : Mint}

theorem kindFor_sound (h : m.Sound) (t : Typer) (pin : Option String) (s : SchemaType) :
    (t.kindFor pin s m).2.Sound ∧ m.Grows (t.kindFor pin s m).2 := by
  by_cases hneeds : t.NeedsMint s
  · rw [kindFor_of_needsMint hneeds]
    obtain ⟨hsound, hgrows, -⟩ :=
      Mint.obtainNamed_spec h (h.typeName_plain _ _) hneeds.scalars_ne_nil
    exact ⟨hsound, hgrows⟩
  · obtain ⟨k, -, hsame⟩ := kindFor_of_not_needsMint hneeds
    rw [hsame]
    exact ⟨h, Mint.Grows.refl m⟩

/-- A minted type that is given as a kind is kept. -/
theorem keeps_of_kindFor (h : m.Sound) {pin : Option String} {u : Stamped MintedEnum}
    (hu : (t.kindFor pin s m).1 = .enumeration (.minted u)) : (t.kindFor pin s m).2.Keeps u := by
  by_cases hneeds : t.NeedsMint s
  · rw [kindFor_of_needsMint hneeds] at hu ⊢
    obtain ⟨-, -, hkept, -⟩ := Mint.obtainNamed_spec h (h.typeName_plain _ _) hneeds.scalars_ne_nil
    cases hu
    exact hkept
  · obtain ⟨k, hk, hsame⟩ := kindFor_of_not_needsMint hneeds
    rw [hsame] at hu
    exact absurd hu (hk u)

/-- A type that is needed and not known is made, and nothing else happens. -/
theorem kindFor_addsOne (h : m.Sound) (hneeds : t.NeedsMint s) {pin : Option String}
    (hnew : ¬ m.Knows (t.signatureFor pin s m)) :
    m.AddsOne (t.kindFor pin s m).2 (t.signatureFor pin s m) := by
  obtain ⟨hfree, hadds⟩ :=
    h.obtainNamed_of_not_knows (h.typeName_plain _ _) hneeds.scalars_ne_nil hnew
  rw [kindFor_of_needsMint hneeds, nameFor, hadds]
  exact Mint.addsOne_fresh hfree

/-- In all other cases nothing happens at all. -/
theorem kindFor_unchanged {pin : Option String}
    (hidle : ¬ (t.NeedsMint s ∧ ¬ m.Knows (t.signatureFor pin s m))) : (t.kindFor pin s m).2 = m := by
  by_cases hneeds : t.NeedsMint s
  · have hknows : m.Knows (t.signatureFor pin s m) := by
      by_contra hnew
      exact hidle ⟨hneeds, hnew⟩
    obtain ⟨u, hu, hsig⟩ := hknows
    rw [kindFor_of_needsMint hneeds, hu.obtainNamed_eq hsig]
  · obtain ⟨k, -, hsame⟩ := kindFor_of_not_needsMint hneeds
    rw [hsame]

/-- The types that a schema type is built from have no part in what happens to the mint. -/
theorem kindFor_args (t : Typer) (pin : Option String) (s : SchemaType) (args : List SchemaType)
    (m : Mint) : (t.kindFor pin { s with args } m).2 = (t.kindFor pin s m).2 := by
  by_cases hneeds : t.NeedsMint s
  · have hneeds' : t.NeedsMint { s with args } :=
      ⟨hneeds.isEnumeration, hneeds.uncatalogued, hneeds.listed⟩
    rw [kindFor_of_needsMint hneeds, kindFor_of_needsMint hneeds']
    rfl
  · have hneeds' : ¬ t.NeedsMint { s with args } :=
      fun h => hneeds ⟨h.isEnumeration, h.uncatalogued, h.listed⟩
    obtain ⟨k, -, hsame⟩ := kindFor_of_not_needsMint hneeds
    obtain ⟨k', -, hsame'⟩ := kindFor_of_not_needsMint hneeds'
    rw [hsame, hsame']

/-! ## Asking again -/

/-- **Asked again, a typer decides the same.** However the mint grew in between, the kind is the one decided
    at first, the instance of its type included, and the mint is left as it is. -/
theorem kindFor_again (h : m.Sound) {pin : Option String} {n : Mint}
    (hgrows : (t.kindFor pin s m).2.Grows n) : t.kindFor pin s n = ((t.kindFor pin s m).1, n) := by
  by_cases hneeds : t.NeedsMint s
  · have hdefault : n.defaultName = m.defaultName :=
      hgrows.defaultName_eq.trans (kindFor_sound h t pin s).2.defaultName_eq
    have hname : t.nameFor pin s n = t.nameFor pin s m := by
      simp only [nameFor, Mint.typeName, hdefault]
    rw [kindFor_of_needsMint hneeds] at hgrows ⊢
    rw [kindFor_of_needsMint hneeds, hname]
    -- the instance given at first is still kept, and its signature is the one asked for
    obtain ⟨-, -, hkept, hsig⟩ :=
      Mint.obtainNamed_spec h (h.typeName_plain _ _) hneeds.scalars_ne_nil
    rw [nameFor] at hgrows ⊢
    rw [(hgrows.keeps hkept).obtainNamed_eq hsig]
  · obtain ⟨k, -, hsame⟩ := kindFor_of_not_needsMint hneeds
    rw [hsame, hsame]

/-- The pin has no part in the kind of a type that has a name of its own. -/
theorem kindFor_pin_irrelevant {name : String} (hname : s.name? = some name) (t : Typer)
    (pin other : Option String) (m : Mint) : t.kindFor pin s m = t.kindFor other s m := by
  by_cases hneeds : t.NeedsMint s
  · have hsame : t.nameFor pin s m = t.nameFor other s m := by
      rw [nameFor, nameFor, hname]
      exact m.typeName_of_not_blank (SchemaType.not_blank_of_name? hname) _ _
    rw [kindFor_of_needsMint hneeds, kindFor_of_needsMint hneeds, hsame]
  · obtain ⟨k, -, hsame⟩ := kindFor_of_not_needsMint hneeds
    rw [hsame, hsame]

end Typer

end PinTypes
