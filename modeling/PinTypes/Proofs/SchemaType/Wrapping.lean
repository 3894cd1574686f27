import PinTypes.Proofs.SchemaType.Narrowing
import Mathlib.Tactic.Tauto

/-!
# `PinTypes.Proofs.SchemaType.Wrapping` — unions inside unions

A union can be the only member of another union. The same scalar families show below the two, but the outer
union asks its one member whether anything shows in it, and does not ask the members of that member. So a
member without scalar kinds counts where it stands directly in the union and is passed over further down.

The answer is lost in one situation only: texts alone or truth values alone show below (`ShowsAlone`), and
such a member stands beside them. The union itself is an object then, and wrapped up it is textual, or
boolean. Numbers do not care for other members, and a union that is wrapped up already has no member to lose;
so a second wrapping changes nothing, nor does any after it.

## Contents
- **One family alone.** `ScalarFamily.family`, `ShowsAlone`, `family_eq_iff_showsAlone`.
- **One wrapping.** `shows_iff_of_isUnion`, `showsAlone_wrap`, `family_wrap_eq_iff_showsAlone`,
  `family_wrap_of_hasForeign`, `family_wrap_eq_of_kept`.
- **More of them.** `wrapped`, `family_wrap_wrap`, `family_wrapped`.
- **Main statement.** `family_wrap_eq_iff`, and `family_wrap_ne`, two unions that are narrowed in another
  way once they are wrapped up.
-/

namespace PinTypes

/-! ## One family alone -/

/-- What a union of members of one scalar family is narrowed to. -/
def ScalarFamily.family : ScalarFamily → Family
  | numeric => .numeric
  | boolean => .boolean
  | text => .text

theorem ScalarFamily.family_inj {f g : ScalarFamily} (h : f.family = g.family) : f = g := by
  cases f <;> cases g <;> first | rfl | cases h

theorem ScalarFamily.family_ne_object (f : ScalarFamily) : f.family ≠ .object := by
  cases f <;> exact nofun

/-- What is narrowed to no scalar family is an object. -/
theorem ScalarFamily.eq_object_of_ne {family : Family} (h : ∀ f : ScalarFamily, family ≠ f.family) :
    family = .object := by
  cases family with
  | numeric => exact absurd rfl (h .numeric)
  | boolean => exact absurd rfl (h .boolean)
  | text => exact absurd rfl (h .text)
  | object => rfl

theorem ScalarFamily.forall_iff {P : ScalarFamily → Prop} :
    (∀ f, P f) ↔ P numeric ∧ P boolean ∧ P text := by
  constructor
  · intro h
    exact ⟨h numeric, h boolean, h text⟩
  · rintro ⟨hnumeric, hboolean, htext⟩ f
    cases f with
    | numeric => exact hnumeric
    | boolean => exact hboolean
    | text => exact htext

namespace SchemaType

/-- This scalar family shows below the type, and no other does. -/
def ShowsAlone (f : ScalarFamily) (t : SchemaType) : Prop := ∀ g, t.ShowsBelow g ↔ g = f

theorem ShowsAlone.showsBelow {f : ScalarFamily} {t : SchemaType} (h : t.ShowsAlone f) : t.ShowsBelow f :=
  (h f).mpr rfl

/-- **Texts, or truth values, must be alone.** A type without a telling name is narrowed to either of these
    families exactly if no other shows, and if each member shows it. -/
theorem family_eq_iff_showsAlone {t : SchemaType} (hname : t.name?.bind Family.ofHint = none)
    {f : ScalarFamily} (hf : f ≠ .numeric) : t.family = f.family ↔ t.ShowsAlone f ∧ ¬ t.HasForeign := by
  rw [ShowsAlone, ScalarFamily.forall_iff]
  cases f with
  | numeric => exact absurd rfl hf
  | boolean =>
    show t.family = .boolean ↔ _
    rw [family_eq_boolean_iff hname]
    simp only [reduceCtorEq, iff_false, iff_true]
    tauto
  | text =>
    show t.family = .text ↔ _
    rw [family_eq_text_iff hname]
    simp only [reduceCtorEq, iff_false, iff_true]
    tauto

/-! ## One wrapping -/

/-- The word of a union is no name of a scalar kind: what shows in a union shows below it. -/
theorem shows_iff_of_isUnion {u : SchemaType} (h : u.isUnion = true) (f : ScalarFamily) :
    u.Shows f ↔ u.ShowsBelow f := by
  have hkind : u.kind = .union := of_decide_eq_true h
  have hword : u.kindName ∉ f.words := by
    rw [← f.holds_ofName_iff]
    show ¬ f.holds u.kind = true
    rw [hkind]
    cases f <;> exact Bool.false_ne_true
  rw [shows_iff]
  exact or_iff_right hword

theorem isUnion_union (members : List SchemaType) : (union members).isUnion = true := by
  have hword : canonicalWord "union" = "union" := by decide
  show decide (Kind.ofName (canonicalWord "union") = .union) = true
  rw [hword]
  rfl

theorem name?_union (members : List SchemaType) : (union members).name?.bind Family.ofHint = none := rfl

theorem showsBelow_wrap (f : ScalarFamily) (u : SchemaType) : (union [u]).ShowsBelow f ↔ u.Shows f := by
  rw [showsBelow_iff]
  constructor
  · rintro ⟨a, ha, hshows⟩
    rwa [List.mem_singleton.mp ha] at hshows
  · intro hshows
    exact ⟨u, List.mem_singleton.mpr rfl, hshows⟩

/-- Where a family shows in the one member, this member is not without scalar kinds. -/
theorem not_hasForeign_wrap {f : ScalarFamily} {u : SchemaType} (h : (union [u]).ShowsBelow f) :
    ¬ (union [u]).HasForeign := by
  rintro ⟨a, ha, hnone⟩
  rw [List.mem_singleton.mp ha] at hnone
  exact hnone f ((showsBelow_wrap f u).mp h)

variable {u : SchemaType}

theorem showsBelow_wrap_of_isUnion (hunion : u.isUnion = true) (f : ScalarFamily) :
    (union [u]).ShowsBelow f ↔ u.ShowsBelow f := by
  rw [showsBelow_wrap, shows_iff_of_isUnion hunion]

theorem showsAlone_wrap (hunion : u.isUnion = true) (f : ScalarFamily) :
    (union [u]).ShowsAlone f ↔ u.ShowsAlone f :=
  forall_congr' fun g => iff_congr (showsBelow_wrap_of_isUnion hunion g) Iff.rfl

/-- Wrapped up, a union of texts or of truth values need not have members of that family alone. -/
theorem family_wrap_eq_iff_showsAlone (hunion : u.isUnion = true) {f : ScalarFamily} (hf : f ≠ .numeric) :
    (union [u]).family = f.family ↔ u.ShowsAlone f := by
  rw [family_eq_iff_showsAlone (name?_union [u]) hf, showsAlone_wrap hunion]
  apply and_iff_left_of_imp
  intro halone
  exact not_hasForeign_wrap ((showsBelow_wrap_of_isUnion hunion f).mpr halone.showsBelow)

section

variable (hunion : u.isUnion = true) (hname : u.name? = none)

include hname in
theorem name?_bind_of_none : u.name?.bind Family.ofHint = none := by rw [hname]; rfl

include hunion hname

/-- Numbers come first in the union and in the one around it. -/
theorem family_wrap_eq_numeric_iff : (union [u]).family = .numeric ↔ u.family = .numeric := by
  rw [family_eq_numeric_iff (name?_union [u]), family_eq_numeric_iff (name?_bind_of_none hname),
    showsBelow_wrap_of_isUnion hunion, showsBelow_wrap_of_isUnion hunion]

/-- **What is lost.** Texts alone, or truth values alone, with a member beside them that shows nothing. -/
theorem family_wrap_of_hasForeign {f : ScalarFamily} (hf : f ≠ .numeric) (halone : u.ShowsAlone f)
    (hforeign : u.HasForeign) : u.family = .object ∧ (union [u]).family = f.family := by
  have hwrap : (union [u]).family = f.family := (family_wrap_eq_iff_showsAlone hunion hf).mpr halone
  refine ⟨ScalarFamily.eq_object_of_ne ?_, hwrap⟩
  intro g hg
  by_cases hnumeric : g = .numeric
  · -- the wrapped union would be numeric too
    rw [hnumeric] at hg
    have hboth : f.family = ScalarFamily.numeric.family :=
      hwrap.symm.trans ((family_wrap_eq_numeric_iff hunion hname).mpr hg)
    exact hf (ScalarFamily.family_inj hboth)
  · exact ((family_eq_iff_showsAlone (name?_bind_of_none hname) hnumeric).mp hg).2 hforeign

/-- **Nothing else is lost.** -/
theorem family_wrap_eq_of_kept
    (hkept : ∀ f : ScalarFamily, f ≠ .numeric → u.ShowsAlone f → ¬ u.HasForeign) :
    (union [u]).family = u.family := by
  have hsame (f : ScalarFamily) : (union [u]).family = f.family ↔ u.family = f.family := by
    by_cases hnumeric : f = .numeric
    · rw [hnumeric]
      exact family_wrap_eq_numeric_iff hunion hname
    · rw [family_wrap_eq_iff_showsAlone hunion hnumeric,
        family_eq_iff_showsAlone (name?_bind_of_none hname) hnumeric]
      exact (and_iff_left_of_imp (hkept f hnumeric)).symm
  by_cases hscalar : ∃ f : ScalarFamily, u.family = f.family
  · obtain ⟨f, hf⟩ := hscalar
    rw [hf, hsame f]
    exact hf
  · have hnone : ∀ f : ScalarFamily, u.family ≠ f.family := fun f hf => hscalar ⟨f, hf⟩
    rw [ScalarFamily.eq_object_of_ne hnone]
    exact ScalarFamily.eq_object_of_ne fun f hf => hnone f ((hsame f).mp hf)

end

/-! ## More of them -/

/-- The type as the only member of a union, so many times over. -/
def wrapped : Nat → SchemaType → SchemaType
  | 0, t => t
  | n + 1, t => union [wrapped n t]

/-- **Once is enough.** What is wrapped up already is narrowed in the same way when it is wrapped up again. -/
theorem family_wrap_wrap (t : SchemaType) : (union [union [t]]).family = (union [t]).family := by
  apply family_wrap_eq_of_kept (isUnion_union [t]) rfl
  intro f _ halone
  exact not_hasForeign_wrap halone.showsBelow

theorem family_wrapped (n : Nat) (t : SchemaType) : (wrapped (n + 1) t).family = (union [t]).family := by
  induction n with
  | zero => rfl
  | succ n ih =>
    show (union [union [wrapped n t]]).family = (union [t]).family
    rw [family_wrap_wrap]
    exact ih

/-! ## Main statement -/

/-- **When wrapping a union changes its family.** A union without a name is narrowed in the same way when it
    is wrapped up, however often, unless texts alone or truth values alone show below it and one of its
    members shows nothing. Then it is an object itself, and textual or boolean once it is wrapped up. -/
theorem family_wrap_eq_iff (hunion : u.isUnion = true) (hname : u.name? = none) :
    ((union [u]).family = u.family ↔
      ∀ f : ScalarFamily, f ≠ .numeric → u.ShowsAlone f → ¬ u.HasForeign) ∧
    (∀ f : ScalarFamily, f ≠ .numeric → u.ShowsAlone f → u.HasForeign →
      u.family = .object ∧ (union [u]).family = f.family) ∧
    ∀ n, (wrapped (n + 1) u).family = (union [u]).family := by
  refine ⟨⟨?_, ?_⟩, fun f hf => family_wrap_of_hasForeign hunion hname hf, fun n => family_wrapped n u⟩
  · intro hsame f hf halone hforeign
    obtain ⟨hobject, hwrap⟩ := family_wrap_of_hasForeign hunion hname hf halone hforeign
    exact f.family_ne_object (hwrap.symm.trans (hsame.trans hobject))
  · exact family_wrap_eq_of_kept hunion hname

/-- Texts and a list without a type for its items. -/
def textsOrList : SchemaType := union [ofWord "str", ofWord "list"]

theorem showsAlone_textsOrList : textsOrList.ShowsAlone .text := by
  rw [ShowsAlone, ScalarFamily.forall_iff, ← any_mentions_iff, ← any_mentions_iff, ← any_mentions_iff]
  decide

theorem hasForeign_textsOrList : textsOrList.HasForeign := by
  rw [← any_isForeign_iff]
  decide

/-- Wrapped up, texts or a list are taken for texts. -/
theorem family_wrap_eq_iff_textsOrList :
    textsOrList.isUnion = true ∧ textsOrList.name? = none ∧
      textsOrList.family = .object ∧ (wrapped 2 textsOrList).family = .text := by
  have hunion : textsOrList.isUnion = true := isUnion_union _
  have hname : textsOrList.name? = none := rfl
  obtain ⟨-, hlost, hwrapped⟩ := family_wrap_eq_iff hunion hname
  obtain ⟨hobject, htext⟩ := hlost .text (by decide) showsAlone_textsOrList hasForeign_textsOrList
  exact ⟨hunion, hname, hobject, (hwrapped 1).trans htext⟩

/-- The family of a union need not be that of the union around it. -/
theorem family_wrap_ne :
    textsOrList.isUnion = true ∧ textsOrList.name? = none ∧ textsOrList.args ≠ [] ∧
      textsOrList.family = .object ∧ (union [textsOrList]).family = .text :=
  ⟨isUnion_union _, rfl, List.cons_ne_nil _ _, rfl, rfl⟩

end SchemaType

end PinTypes
