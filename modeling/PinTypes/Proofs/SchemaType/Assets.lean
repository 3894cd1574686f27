import PinTypes.Proofs.SchemaType.Classes
import PinTypes.Proofs.SchemaType.Wrapping

/-!
# `PinTypes.Proofs.SchemaType.Assets` — types that refer to an asset

A union refers to an asset if one of its members does, and a member may be a union again. So what counts are
the *alternatives* of a type: the type itself, and whatever is reached from it by going from a union to one
of its members. Items of a list and values of a dict are no alternatives. That the search looks at exactly
these is `refersToAsset_iff_alternative`, which is told by words alone.

All of it rests on one equation for one level of the tree, `refersToAsset_iff_args`: the search asks for the
class of a type, and whether there is an asset among what the type is built from. So `EditBelow.sameAnswers`
applies, and an edit below a type keeps both answers (`EditBelow.refersToAsset_eq`). What is put in besides
can turn the second answer to yes, never to no (`Growth.refersToAsset_mono`), and does not turn it if it
refers to no asset itself (`Growth.refersToAsset_eq`).

## Contents
- **Classes of respelled words.** `Respelled.class?_eq`.
- **One level.** `HasAsset`, `refersToAsset_iff_args`, `refersToAsset_of_args`, `refersToAsset_congr`.
- **Alternatives.** `IsMember`, `Alternative`, `refersToAsset_iff_alternative`.
- **Unions around a type.** `Wraps`, `refersToAsset_eq_of_wraps`.
- **Edits.** `hasAsset_insert_iff`, `hasAsset_exchanged_iff`, `refersToAsset_congr_answers`,
  `EditBelow.refersToAsset_eq`.
- **Growth.** `Growth`, `Growth.refersToAsset_mono`, `Growth.refersToAsset_eq`, and both for any number of
  steps.
- **Main statement.** `refersToAsset_through_unions`.
-/

namespace PinTypes

/-! ## Classes of respelled words -/

/-- Respelling a word leaves the class alone, since all scalar kinds are of one class. -/
theorem Respelled.class?_eq {word other : String} (h : Respelled word other) :
    (Kind.ofName (canonicalWord word)).class? = (Kind.ofName (canonicalWord other)).class? := by
  cases h with
  | letterCase h => rw [canonicalWord_of_letterCase h]
  | padded _ hbefore hafter => rw [canonicalWord_padded word hbefore hafter]
  | @synonym f _ _ hword hother =>
    have hscalar : f.words ⊆ TypeClass.scalar.words := by cases f <;> decide
    rw [f.canonicalWord_of_mem hword, f.canonicalWord_of_mem hother,
      Kind.class?_of_mem_words .scalar word (hscalar hword),
      Kind.class?_of_mem_words .scalar other (hscalar hother)]

namespace SchemaType

/-! ## One level -/

/-- One of the types refers to an asset. -/
def HasAsset (ts : List SchemaType) : Prop := ∃ a ∈ ts, a.refersToAsset = true

theorem not_hasAsset_nil : ¬ HasAsset [] := fun ⟨_, ha, _⟩ => nomatch ha

theorem hasAsset_cons_iff {a : SchemaType} {ts : List SchemaType} :
    HasAsset (a :: ts) ↔ a.refersToAsset = true ∨ HasAsset ts :=
  List.exists_mem_cons_iff (fun x : SchemaType => x.refersToAsset = true) a ts

theorem hasAsset_congr_perm {ts us : List SchemaType} (h : ts.Perm us) : HasAsset ts ↔ HasAsset us :=
  exists_congr fun _ => and_congr_left fun _ => h.mem_iff

theorem anyRefersToAsset_iff {ts : List SchemaType} : anyRefersToAsset ts = true ↔ HasAsset ts := by
  induction ts with
  | nil => exact iff_of_false Bool.false_ne_true not_hasAsset_nil
  | cons t ts ih => rw [anyRefersToAsset, Bool.or_eq_true, ih, hasAsset_cons_iff]

/-- **One level of the search.** It asks for the class of the type, and of a union whether there is an asset
    among the members. -/
theorem refersToAsset_iff_args {t : SchemaType} :
    t.refersToAsset = true ↔
      t.kind.class? = some .asset ∨ t.kind.class? = some .union ∧ HasAsset t.args := by
  have hasset : t.isAsset = true ↔ t.kind.class? = some .asset := TypeClass.asset.holds_iff_class?
  have hunion : t.isUnion = true ↔ t.kind.class? = some .union := TypeClass.union.holds_iff_class?
  rw [← hasset, ← hunion]
  obtain ⟨word, declaredName, values, args, optional⟩ := t
  rw [refersToAsset]
  split
  case isTrue h =>
    -- a union is of no other class
    have hother : isAsset ⟨word, declaredName, values, args, optional⟩ ≠ true := fun hboth =>
      TypeClass.noConfusion (TypeClass.eq_of_holds (c := .asset) (d := .union) hboth h)
    rw [anyRefersToAsset_iff, or_iff_right hother, and_iff_right h]
  case isFalse h =>
    exact (or_iff_left fun hmember => h hmember.1).symm

/-- An asset that is found is still found in a type of the same class with an asset where there was one. -/
theorem refersToAsset_of_args {t u : SchemaType} (hclass : t.kind.class? = u.kind.class?)
    (hargs : HasAsset t.args → HasAsset u.args) (h : t.refersToAsset = true) : u.refersToAsset = true := by
  rw [refersToAsset_iff_args] at h ⊢
  rw [← hclass]
  exact h.imp_right (And.imp_right hargs)

theorem refersToAsset_congr {t u : SchemaType} (hclass : t.kind.class? = u.kind.class?)
    (hargs : HasAsset t.args ↔ HasAsset u.args) : t.refersToAsset = u.refersToAsset :=
  Bool.eq_iff_iff.mpr
    ⟨refersToAsset_of_args hclass hargs.mp, refersToAsset_of_args hclass.symm hargs.mpr⟩

/-! ## Alternatives -/

/-- The type is a member of the other one, which is a union. -/
def IsMember (a t : SchemaType) : Prop := t.kindName ∈ TypeClass.union.words ∧ IsArg a t

/-- The type is the other one, or is reached from it through unions alone. -/
def Alternative (s t : SchemaType) : Prop := Relation.ReflTransGen IsMember s t

theorem alternative_iff {s t : SchemaType} : Alternative s t ↔ t = s ∨ ∃ a, Alternative s a ∧ IsMember a t :=
  Relation.ReflTransGen.cases_tail_iff IsMember s t

/-- **The search looks at the alternatives.** By induction on the tree. -/
theorem refersToAsset_iff_alternative (t : SchemaType) :
    t.refersToAsset = true ↔ ∃ s, Alternative s t ∧ s.kindName ∈ TypeClass.asset.words := by
  induction t using induction_on_args with
  | h t ih =>
    rw [refersToAsset_iff_args, kind, Kind.class?_ofName_iff, Kind.class?_ofName_iff]
    constructor
    · rintro (hasset | ⟨hunion, a, ha, hfound⟩)
      · exact ⟨t, .refl, hasset⟩
      · obtain ⟨s, hs, hasset⟩ := (ih a ha).mp hfound
        exact ⟨s, hs.tail ⟨hunion, ha⟩, hasset⟩
    · rintro ⟨s, hs, hasset⟩
      rcases alternative_iff.mp hs with rfl | ⟨a, hsa, hunion, ha⟩
      · exact Or.inl hasset
      · exact Or.inr ⟨hunion, a, ha, (ih a ha).mpr ⟨s, hsa, hasset⟩⟩

/-- The items of a list are no alternatives. -/
example : SchemaType.refersToAsset { ofWord "list" with args := [ofWord "image"] } = false := by decide

theorem refersToAsset_of_isAsset {t : SchemaType} (h : t.isAsset = true) : t.refersToAsset = true :=
  refersToAsset_iff_args.mpr (Or.inl (TypeClass.asset.holds_iff_class?.mp h))

/-! ## Unions around a type -/

/-- The other type is a union, under any of the names of a union, and the type is its only member. -/
def Wraps (t u : SchemaType) : Prop := u.kindName ∈ TypeClass.union.words ∧ u.args = [t]

theorem Wraps.refersToAsset_eq {t u : SchemaType} (h : Wraps t u) : t.refersToAsset = u.refersToAsset := by
  obtain ⟨hword, hargs⟩ := h
  have hclass : u.kind.class? = some .union := Kind.class?_ofName_iff.mpr hword
  have hmember : HasAsset u.args ↔ t.refersToAsset = true := by
    rw [hargs, hasAsset_cons_iff]
    exact or_iff_left not_hasAsset_nil
  rw [Bool.eq_iff_iff, refersToAsset_iff_args (t := u), hclass, hmember]
  simp

theorem refersToAsset_eq_of_wraps {t u : SchemaType} (h : Relation.ReflTransGen Wraps t u) :
    t.refersToAsset = u.refersToAsset := by
  induction h with
  | refl => rfl
  | tail _ hwrap ih => exact ih.trans hwrap.refersToAsset_eq

/-! ## Edits -/

/-- Wherever a type is put in, there is an asset if there was one before or if the type refers to one. -/
theorem hasAsset_insert_iff {front back : List SchemaType} {a : SchemaType} :
    HasAsset (front ++ a :: back) ↔ a.refersToAsset = true ∨ HasAsset (front ++ back) := by
  rw [hasAsset_congr_perm List.perm_middle, hasAsset_cons_iff]

theorem hasAsset_exchanged_iff {front back : List SchemaType} {a b : SchemaType}
    (h : a.refersToAsset = b.refersToAsset) :
    HasAsset (front ++ a :: back) ↔ HasAsset (front ++ b :: back) := by
  rw [hasAsset_insert_iff, hasAsset_insert_iff, h]

/-- A change keeps the word, or the class of the word. -/
theorem Change.refersToAsset_eq {a b : SchemaType} (h : Change a b) : a.refersToAsset = b.refersToAsset := by
  cases h with
  | respelled hword => exact refersToAsset_congr hword.class?_eq Iff.rfl
  | redescribed => exact refersToAsset_congr rfl Iff.rfl

/-- Of the answers in what a type is built from it matters whether one of them is yes. -/
theorem refersToAsset_congr_answers {t : SchemaType} {args : List SchemaType}
    (h : ∀ y, y ∈ t.args.map refersToAsset ↔ y ∈ args.map refersToAsset) :
    t.refersToAsset = refersToAsset { t with args } :=
  refersToAsset_congr rfl (List.mem_map.symm.trans ((h true).trans List.mem_map))

/-- **An edit below a type** is not seen by the search. -/
theorem EditBelow.refersToAsset_eq {t u : SchemaType} (h : EditBelow t u) :
    t.refersToAsset = u.refersToAsset := by
  obtain ⟨hrest, hsame⟩ := h.sameAnswers Change.refersToAsset_eq refersToAsset_congr_answers
  rw [hrest]
  exact refersToAsset_congr_answers hsame

/-! ## Growth -/

/-- A step in which a type is edited below, or in which something admitted is put in there. -/
inductive Growth (admitted : SchemaType → Prop) : SchemaType → SchemaType → Prop
  /-- There is an edit below the type. -/
  | edited {t u : SchemaType} (h : EditBelow t u) : Growth admitted t u
  /-- One more is put among the types that the type is built from. -/
  | added {t a : SchemaType} {front back : List SchemaType} (h : t.args = front ++ back)
      (ha : admitted a) : Growth admitted t { t with args := front ++ a :: back }
  /-- One of the types that it is built from grows. -/
  | deeper {t a b : SchemaType} {front back : List SchemaType} (h : t.args = front ++ a :: back)
      (hab : Growth admitted a b) : Growth admitted t { t with args := front ++ b :: back }

section

variable {admitted : SchemaType → Prop} {t u : SchemaType}

/-- **Growing loses no asset,** whatever is put in. -/
theorem Growth.refersToAsset_mono (h : Growth admitted t u) :
    t.refersToAsset = true → u.refersToAsset = true := by
  induction h with
  | edited hedit =>
    rw [hedit.refersToAsset_eq]
    exact id
  | added hargs _ =>
    refine refersToAsset_of_args rfl ?_
    rw [hargs, hasAsset_insert_iff]
    exact Or.inr
  | deeper hargs _ ih =>
    refine refersToAsset_of_args rfl ?_
    rw [hargs, hasAsset_insert_iff, hasAsset_insert_iff]
    exact Or.imp_left ih

/-- **Growing gains no asset** if nothing that refers to one is put in. -/
theorem Growth.refersToAsset_eq (hadmitted : ∀ a, admitted a → a.refersToAsset = false)
    (h : Growth admitted t u) : t.refersToAsset = u.refersToAsset := by
  induction h with
  | edited hedit => exact hedit.refersToAsset_eq
  | @added t a front back hargs ha =>
    refine refersToAsset_congr rfl ?_
    rw [hargs, hasAsset_insert_iff, hadmitted a ha]
    exact (or_iff_right Bool.false_ne_true).symm
  | deeper hargs _ ih =>
    refine refersToAsset_congr rfl ?_
    rw [hargs]
    exact hasAsset_exchanged_iff ih

theorem refersToAsset_of_growths (h : Relation.ReflTransGen (Growth admitted) t u)
    (hfound : t.refersToAsset = true) : u.refersToAsset = true := by
  induction h with
  | refl => exact hfound
  | tail _ hstep ih => exact hstep.refersToAsset_mono ih

/-- Any number of steps, done or undone. -/
theorem refersToAsset_eq_of_growths (hadmitted : ∀ a, admitted a → a.refersToAsset = false)
    (h : Relation.EqvGen (Growth admitted) t u) : t.refersToAsset = u.refersToAsset := by
  induction h with
  | rel t u hstep => exact hstep.refersToAsset_eq hadmitted
  | refl t => rfl
  | symm t u _ ih => exact ih.symm
  | trans t u v _ _ ih ih' => exact ih.trans ih'

end

/-! ## Main statement -/

/-- **A type refers to an asset through unions.** It does exactly if the word of one of its alternatives is
    that of an asset. So a type that is an asset refers to one; unions around a type, under any name and in
    any number, change nothing; neither do edits below it, such as another order or repetition of members at
    whatever depth, nor members that refer to no asset, put in or taken out; and whatever else is put in, an
    asset that was found is still found. -/
theorem refersToAsset_through_unions (t : SchemaType) :
    (t.refersToAsset = true ↔ ∃ s, Alternative s t ∧ s.kindName ∈ TypeClass.asset.words) ∧
    (t.isAsset = true → t.refersToAsset = true) ∧
    (∀ u, Relation.ReflTransGen Wraps t u → u.refersToAsset = t.refersToAsset) ∧
    (∀ u, Relation.EqvGen (Growth fun a => a.refersToAsset = false) t u →
      u.refersToAsset = t.refersToAsset) ∧
    ∀ u, Relation.ReflTransGen (Growth fun _ => True) t u → t.refersToAsset = true →
      u.refersToAsset = true := by
  refine ⟨refersToAsset_iff_alternative t, refersToAsset_of_isAsset, ?_, ?_, ?_⟩
  · intro u hwraps
    exact (refersToAsset_eq_of_wraps hwraps).symm
  · intro u hgrowths
    exact (refersToAsset_eq_of_growths (fun _ hnone => hnone) hgrowths).symm
  · intro u hgrowths
    exact refersToAsset_of_growths hgrowths

/-- A text or, one union further down, a sound. It is put into a union under another name, or its members
    change places and a number joins the sound, or an image joins the members: it refers to an asset all the
    same. -/
theorem refersToAsset_through_unions_audio :
    let sounds := union [ofWord "audio"]
    let t := union [ofWord "str", sounds]
    let around : SchemaType := { ofWord " ANY " with args := [t] }
    let edited := union [union [ofWord "audio", ofWord "int"], ofWord "str"]
    let joined := union [ofWord "image", ofWord "str", sounds]
    Relation.ReflTransGen Wraps t around ∧
      Relation.EqvGen (Growth fun a => a.refersToAsset = false) t edited ∧
      Relation.ReflTransGen (Growth fun _ => True) t joined ∧ (ofWord "audio").isAsset = true ∧
      t.refersToAsset = true ∧ around.refersToAsset = true ∧ edited.refersToAsset = true ∧
      joined.refersToAsset = true ∧ (ofWord "audio").refersToAsset = true := by
  intro sounds t around edited joined
  have hword (members : List SchemaType) : (union members).kindName ∈ TypeClass.union.words :=
    TypeClass.union.holds_iff.mp (isUnion_union members)
  have hwrap : Relation.ReflTransGen Wraps t around := .single ⟨by decide, rfl⟩
  have hswap : EditBelow t (union [sounds, ofWord "str"]) := .permuted (.swap _ _ _)
  have hfirst : (union [sounds, ofWord "str"]).args = [] ++ sounds :: [ofWord "str"] := rfl
  have hbehind : sounds.args = [ofWord "audio"] ++ [] := rfl
  have hput : Growth (fun a => a.refersToAsset = false) (union [sounds, ofWord "str"]) edited :=
    .deeper hfirst (.added hbehind (by decide))
  have hedits : Relation.EqvGen (Growth fun a => a.refersToAsset = false) t edited :=
    .trans _ _ _ (.rel _ _ (.edited hswap)) (.rel _ _ hput)
  have hfront : t.args = [] ++ [ofWord "str", sounds] := rfl
  have hjoin : Relation.ReflTransGen (Growth fun _ => True) t joined := .single (.added hfront trivial)
  have hsound : (ofWord "audio").isAsset = true := by decide
  -- from the union to its second member, and from there to the first one
  have hstep : IsMember sounds t := ⟨hword _, List.mem_cons_of_mem _ List.mem_cons_self⟩
  have hstep' : IsMember (ofWord "audio") sounds := ⟨hword _, List.mem_cons_self⟩
  obtain ⟨hpaths, -, haround, hedited, hjoined⟩ := refersToAsset_through_unions t
  have hfound : t.refersToAsset = true :=
    hpaths.mpr ⟨ofWord "audio", .head hstep' (.single hstep), by decide⟩
  exact ⟨hwrap, hedits, hjoin, hsound, hfound, (haround around hwrap).trans hfound,
    (hedited edited hedits).trans hfound, hjoined joined hjoin hfound,
    (refersToAsset_through_unions (ofWord "audio")).2.1 hsound⟩

end SchemaType

end PinTypes
