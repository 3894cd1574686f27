import PinTypes.Enumeration.Catalog
import PinTypes.Proofs.Text.Blank

/-!
# `PinTypes.Proofs.Enumeration.Catalog` — what a name stands for

Adding a type and merging a catalog are the two ways in which a name comes to stand for a type, and they
settle a conflict in opposite ways: the first type added keeps its name, but what is merged in replaces
what was there. `add_cases` and `getElem?_merge` say once what the two can do to a catalog; the rest
is read off them.

The type itself carries its name as it was declared. That a catalog holds it under the trimmed name and
nowhere else is the invariant `Filed`, which no operation can break, in whatever order catalogs are
made, filled and merged into one another (`filed_after`).

## Contents
- **Looking up.** `find?_congr`, `find?_of_blank`.
- **Adding.** `Catalog.Accepts`, `Catalog.add_cases`, `Catalog.find?_add`.
- **Adding many.** `Catalog.find?_addAll_of_first`, where the first registration wins.
- **Merging.** `Catalog.find?_merge`.
- **Runs.** `Catalog.Action`, `Catalog.after`; `Catalog.Follows`, what one action leaves at a place;
  `Catalog.Filed`, `Catalog.filed_after`.
- **Main statement.** `Catalog.names_stand_for_first_or_merged`.
-/

namespace PinTypes

open PinTypes.Text (trimmed isBlankText trimmed_eq_empty_iff)

namespace Catalog

variable {c other : Catalog} {t : CataloguedEnum} {n : String}

/-! ## Looking up -/

theorem find?_of_ne_empty (c : Catalog) (hn : trimmed n ≠ "") : c.find? n = c.entries[trimmed n]? := by
  simp [find?, hn]

/-- A blank name stands for nothing. -/
theorem find?_of_blank (c : Catalog) (hn : trimmed n = "") : c.find? n = none := by
  simp [find?, hn]

/-- What a name stands for depends on the trimmed name alone. -/
theorem find?_congr (c : Catalog) {m : String} (h : trimmed n = trimmed m) : c.find? n = c.find? m := by
  simp [find?, h]

/-- Catalogs in which the entries of a name agree agree about the name. -/
theorem find?_eq_of_getElem? (h : c.entries[trimmed n]? = other.entries[trimmed n]?) :
    c.find? n = other.find? n := by
  simp [find?, h]

/-! ## Adding -/

/-- The instance that the catalog issues next. -/
def fresh (c : Catalog) (t : CataloguedEnum) : Stamped CataloguedEnum := ⟨⟨c.source, c.issued⟩, t⟩

/-- The catalog takes the type: its name is not blank and stands for nothing yet. -/
def Accepts (c : Catalog) (t : CataloguedEnum) : Prop := trimmed t.name ≠ "" ∧ c.find? t.name = none

/-- **Adding accepts or refuses.** A type that is accepted is entered under its trimmed name; if it is
    refused, nothing happens. -/
theorem add_cases (c : Catalog) (t : CataloguedEnum) :
    (c.Accepts t ∧ (c.add t).1 = true ∧ (c.add t).2.issued = c.issued + 1 ∧
      (c.add t).2.entries = c.entries.insert (trimmed t.name) (c.fresh t)) ∨
    (¬ c.Accepts t ∧ c.add t = (false, c)) := by
  by_cases hblank : trimmed t.name = ""
  · exact Or.inr ⟨fun h => h.1 hblank, by simp [add, hblank]⟩
  · by_cases htaken : trimmed t.name ∈ c.entries
    · refine Or.inr ⟨fun h => ?_, by simp [add, htaken]⟩
      have hfree := h.2
      rw [c.find?_of_ne_empty hblank, getElem?_eq_none_iff] at hfree
      exact hfree htaken
    · have hfree : c.find? t.name = none := by
        rw [c.find?_of_ne_empty hblank, getElem?_eq_none_iff]
        exact htaken
      have hadd : c.add t = (true, { c with
          issued := c.issued + 1
          entries := c.entries.insert (trimmed t.name) (c.fresh t) }) := by
        simp [add, hblank, htaken, fresh]
      rw [hadd]
      exact Or.inl ⟨⟨hblank, hfree⟩, rfl, rfl, rfl⟩

/-- A type is added exactly if it is accepted. -/
theorem add_eq_true_iff : (c.add t).1 = true ↔ c.Accepts t := by
  rcases c.add_cases t with ⟨haccepts, hadded, -⟩ | ⟨hrefused, hadd⟩
  · exact ⟨fun _ => haccepts, fun _ => hadded⟩
  · constructor
    · intro h
      rw [hadd] at h
      cases h
    · intro h
      exact absurd h hrefused

/-- A type that is refused leaves the catalog as it was. -/
theorem add_of_not_accepts (h : ¬ c.Accepts t) : (c.add t).2 = c := by
  rcases c.add_cases t with ⟨haccepts, -⟩ | ⟨-, hadd⟩
  · exact absurd haccepts h
  · rw [hadd]

/-- **What names stand for once a type is added:** the name of an accepted type stands for its fresh
    instance, every other name for what it stood for. -/
theorem find?_add (h : c.Accepts t) (n : String) :
    (c.add t).2.find? n = if trimmed t.name = trimmed n then some (c.fresh t) else c.find? n := by
  rcases c.add_cases t with ⟨-, -, -, hentries⟩ | ⟨hrefused, -⟩
  · by_cases hsame : trimmed t.name = trimmed n
    · rw [if_pos hsame, find?_of_ne_empty _ (hsame ▸ h.1), hentries, hsame]
      exact Std.TreeMap.getElem?_insert_self
    · rw [if_neg hsame]
      apply find?_eq_of_getElem?
      have hne : compare (trimmed t.name) (trimmed n) ≠ .eq :=
        fun he => hsame (Std.LawfulEqOrd.eq_of_compare he)
      rw [hentries, Std.TreeMap.getElem?_insert, if_neg hne]
  · exact absurd h hrefused

/-- A name keeps what it stands for when a type is added. -/
theorem find?_add_of_find? (t : CataloguedEnum) {u : Stamped CataloguedEnum} (h : c.find? n = some u) :
    (c.add t).2.find? n = some u := by
  by_cases haccepts : c.Accepts t
  · have hother : trimmed t.name ≠ trimmed n := by
      intro hsame
      have hfree := haccepts.2
      rw [c.find?_congr hsame, h] at hfree
      cases hfree
    rw [find?_add haccepts, if_neg hother, h]
  · rw [add_of_not_accepts haccepts, h]

/-- A name is not changed by the addition of types of other names. -/
theorem find?_add_of_ne (h : trimmed t.name ≠ trimmed n) : (c.add t).2.find? n = c.find? n := by
  by_cases haccepts : c.Accepts t
  · rw [find?_add haccepts, if_neg h]
  · rw [add_of_not_accepts haccepts]

/-! ## Adding many -/

/-- The catalog after types were added in order. -/
def addAll (c : Catalog) (types : List CataloguedEnum) : Catalog :=
  types.foldl (fun c t => (c.add t).2) c

theorem ofTypes_eq (source : Nat) (types : List CataloguedEnum) :
    ofTypes source types = (empty source).addAll types := rfl

theorem addAll_append (c : Catalog) (ts us : List CataloguedEnum) :
    c.addAll (ts ++ us) = (c.addAll ts).addAll us := List.foldl_append

theorem find?_addAll_of_find? {u : Stamped CataloguedEnum} (h : c.find? n = some u)
    (types : List CataloguedEnum) : (c.addAll types).find? n = some u := by
  induction types generalizing c with
  | nil => exact h
  | cons t ts ih => exact ih (find?_add_of_find? t h)

theorem find?_addAll_of_ne {types : List CataloguedEnum}
    (h : ∀ u ∈ types, trimmed u.name ≠ trimmed n) : (c.addAll types).find? n = c.find? n := by
  induction types generalizing c with
  | nil => rfl
  | cons t ts ih =>
    have htail : ((c.add t).2.addAll ts).find? n = (c.add t).2.find? n :=
      ih fun u hu => h u (List.mem_cons_of_mem t hu)
    exact htail.trans (find?_add_of_ne (h t List.mem_cons_self))

@[simp] theorem find?_empty (source : Nat) (n : String) : (empty source).find? n = none := by
  simp [find?, empty]

/-- **The first registration wins.** The name of the first type of that name stands for the instance that
    was issued for it, whatever is added later. -/
theorem find?_addAll_of_first {before rest : List CataloguedEnum} (hfree : c.find? n = none)
    (hname : trimmed t.name = trimmed n) (hblank : trimmed n ≠ "")
    (hfirst : ∀ u ∈ before, trimmed u.name ≠ trimmed n) :
    (c.addAll (before ++ t :: rest)).find? n = some ((c.addAll before).fresh t) := by
  have hstill : (c.addAll before).find? n = none := (find?_addAll_of_ne hfirst).trans hfree
  have haccepts : (c.addAll before).Accepts t := by
    refine ⟨hname ▸ hblank, ?_⟩
    rw [find?_congr _ hname]
    exact hstill
  have hadded : ((c.addAll before).add t).2.find? n = some ((c.addAll before).fresh t) := by
    rw [find?_add haccepts, if_pos hname]
  rw [addAll_append]
  exact find?_addAll_of_find? hadded rest

/-- A catalog of one type has it under its name. -/
theorem find?_ofTypes_singleton (source : Nat) {t : CataloguedEnum} {n : String}
    (hname : trimmed t.name = trimmed n) (hblank : trimmed n ≠ "") :
    (ofTypes source [t]).find? n = some ⟨⟨source, 0⟩, t⟩ := by
  have hfirst : ∀ u ∈ ([] : List CataloguedEnum), trimmed u.name ≠ trimmed n := by simp
  have hfind : ((empty source).addAll ([] ++ [t])).find? n = some (((empty source).addAll []).fresh t) :=
    find?_addAll_of_first (find?_empty source n) hname hblank hfirst
  exact hfind

/-! ## Merging -/

/-- **Merging overrides.** Under each name stands the entry of the other catalog, and only where it has
    none the entry that was there. -/
theorem getElem?_merge (c other : Catalog) (k : String) :
    (c.merge other).entries[k]? = other.entries[k]?.or c.entries[k]? := by
  unfold merge
  cases hk : other.entries[k]? with
  | some u =>
    have hmem : (k, u) ∈ other.entries.toList := Std.TreeMap.mem_toList_iff_getElem?_eq_some.mpr hk
    rw [Option.some_or]
    exact Std.TreeMap.getElem?_insertMany_list_of_mem Std.ReflCmp.compare_self
      Std.TreeMap.distinct_keys_toList hmem
  | none =>
    have hnone : (other.entries.toList.map Prod.fst).contains k = false := by
      rw [getElem?_eq_none_iff] at hk
      rw [Std.TreeMap.map_fst_toList_eq_keys]
      simpa using hk
    rw [Option.none_or]
    exact Std.TreeMap.getElem?_insertMany_list_of_contains_eq_false hnone

theorem find?_merge (c other : Catalog) (n : String) :
    (c.merge other).find? n = (other.find? n).or (c.find? n) := by
  by_cases hn : trimmed n = ""
  · simp [find?_of_blank _ hn]
  · rw [find?_of_ne_empty _ hn, find?_of_ne_empty _ hn, find?_of_ne_empty _ hn, getElem?_merge]

/-! ## Runs -/

/-- Every entry stands under the trimmed name of its type, which is not empty. -/
def Filed (c : Catalog) : Prop :=
  ∀ (name : String) (t : Stamped CataloguedEnum), c.entries[name]? = some t →
    name = trimmed t.type.name ∧ name ≠ ""

theorem filed_empty (source : Nat) : (empty source).Filed := by
  intro name t h
  simp [empty] at h

theorem filed_cleared (c : Catalog) : c.cleared.Filed := by
  intro name t h
  simp [cleared] at h

theorem Filed.add (h : c.Filed) (t : CataloguedEnum) : (c.add t).2.Filed := by
  rcases c.add_cases t with ⟨⟨hblank, -⟩, -, -, hentries⟩ | ⟨-, hadd⟩
  · intro name u hu
    rw [hentries, Std.TreeMap.getElem?_insert] at hu
    split at hu
    · rename_i hc
      obtain rfl := Option.some.inj hu
      obtain rfl := Std.LawfulEqOrd.eq_of_compare hc
      exact ⟨rfl, hblank⟩
    · exact h name u hu
  · rw [hadd]
    exact h

theorem Filed.merge (h : c.Filed) (hother : other.Filed) : (c.merge other).Filed := by
  intro name u hu
  rw [getElem?_merge, Option.or_eq_some_iff] at hu
  rcases hu with hu | ⟨-, hu⟩
  · exact hother name u hu
  · exact h name u hu

/-- What can be done with catalogs. They are numbered in the order in which they are made. -/
inductive Action where
  | make
  | add (catalog : Nat) (t : CataloguedEnum)
  /-- Merges one catalog into another. The one that is merged loses its entries to it. -/
  | merge (into other : Nat)

/-- The catalogs after one action. An action on a catalog that there is not, or on one catalog as two,
    does nothing. -/
def perform (shelf : List Catalog) : Action → List Catalog
  | .make => shelf ++ [empty shelf.length]
  | .add i t => shelf.modify i fun c => (c.add t).2
  | .merge i j =>
    match shelf[i]?, shelf[j]? with
    | some c, some other => if i = j then shelf else (shelf.set j other.cleared).set i (c.merge other)
    | _, _ => shelf

/-- The catalogs after a run of actions that starts from none. -/
def after (actions : List Action) : List Catalog := actions.foldl perform []

/-- The catalog that an action leaves at a position. -/
inductive Follows (shelf : List Catalog) (i : Nat) : Action → Catalog → Prop
  /-- The one that stood there. -/
  | kept {a : Action} {c : Catalog} (h : shelf[i]? = some c) : Follows shelf i a c
  /-- A new one. -/
  | made (h : i = shelf.length) : Follows shelf i .make (empty i)
  /-- The one that stood there, with a type added. -/
  | added {t : CataloguedEnum} {c : Catalog} (h : shelf[i]? = some c) :
      Follows shelf i (.add i t) (c.add t).2
  /-- The one that stood there, with another one merged in. -/
  | merged {j : Nat} {c other : Catalog} (h : shelf[i]? = some c) (hother : shelf[j]? = some other) :
      Follows shelf i (.merge i j) (c.merge other)
  /-- The one that stood there, after it was merged into another. -/
  | cleared {j : Nat} {c : Catalog} (h : shelf[i]? = some c) : Follows shelf i (.merge j i) c.cleared

/-- **What one action can do.** -/
theorem follows_perform {shelf : List Catalog} {a : Action} {i : Nat} {c : Catalog} (h : (perform shelf a)[i]? = some c) :
    Follows shelf i a c := by
  cases a with
  | make =>
    rw [perform, List.getElem?_append, List.getElem?_singleton] at h
    split at h
    · exact .kept h
    · split at h
      · obtain rfl : i = shelf.length := by omega
        cases h
        exact .made rfl
      · cases h
  | add j t =>
    rw [perform, List.getElem?_modify] at h
    obtain ⟨d, hd, rfl⟩ := Option.map_eq_some_iff.mp h
    by_cases hij : j = i
    · rw [if_pos hij, hij]
      exact .added hd
    · rw [if_neg hij]
      exact .kept hd
  | merge j k =>
    simp only [perform] at h
    split at h
    · rename_i d other hd hother
      by_cases hself : j = k
      · rw [if_pos hself] at h
        exact .kept h
      · rw [if_neg hself, List.getElem?_set, List.getElem?_set] at h
        by_cases hinto : j = i
        · rw [if_pos hinto] at h
          obtain rfl := Option.some.inj (Option.ite_none_right_eq_some.mp h).2
          exact hinto ▸ .merged hd hother
        · rw [if_neg hinto] at h
          by_cases hfrom : k = i
          · rw [if_pos hfrom] at h
            obtain rfl := Option.some.inj (Option.ite_none_right_eq_some.mp h).2
            exact hfrom ▸ .cleared hother
          · rw [if_neg hfrom] at h
            exact .kept h
    · exact .kept h

/-- One action keeps every entry filed. -/
theorem filed_perform {shelf : List Catalog} (h : ∀ c ∈ shelf, c.Filed) (a : Action) :
    ∀ c ∈ perform shelf a, c.Filed := by
  intro c hc
  obtain ⟨i, hi⟩ := List.mem_iff_getElem?.mp hc
  cases follows_perform hi with
  | kept hkept => exact h c (List.mem_of_getElem? hkept)
  | made => exact filed_empty i
  | @added t d hd => exact (h d (List.mem_of_getElem? hd)).add t
  | @merged _ d other hd hother =>
    exact (h d (List.mem_of_getElem? hd)).merge (h other (List.mem_of_getElem? hother))
  | @cleared _ d _ => exact filed_cleared d

/-- **Every run keeps every entry filed.** -/
theorem filed_after (actions : List Action) : ∀ c ∈ after actions, c.Filed := by
  induction actions using List.reverseRecOn with
  | nil =>
    intro c hc
    cases hc
  | append_singleton actions a ih =>
    rw [after, List.foldl_append]
    exact filed_perform ih a

/-! ## Main statement -/

/-- **A name stands for the type that took it first, or for the one that was merged in last.** After any run
    of actions, every entry of a catalog stands under the trimmed name of its type, which is not empty. A
    type is added exactly if its trimmed name is not empty and stands for nothing; otherwise the catalog
    stays as it was, and in either case no name that stands for an instance stands for another one
    afterwards. When a catalog is merged in, its names stand for its instances and all other names
    for what they stood for. Looking up sees the trimmed name alone, and a blank name finds nothing.

    Where types were only added, a name therefore stands for the instance that was issued for the first
    type of that trimmed name, and for nothing if there was none. -/
theorem names_stand_for_first_or_merged (actions : List Action) :
    (∀ c ∈ after actions,
      (∀ (name : String) (t : Stamped CataloguedEnum), c.entries[name]? = some t →
        name = trimmed t.type.name ∧ name ≠ "") ∧
      (∀ t : CataloguedEnum,
        ((c.add t).1 = true ↔ trimmed t.name ≠ "" ∧ c.find? t.name = none) ∧
        ((c.add t).1 = false → (c.add t).2 = c) ∧
        ∀ (n : String) (u : Stamped CataloguedEnum), c.find? n = some u →
          (c.add t).2.find? n = some u) ∧
      (∀ other ∈ after actions, ∀ n : String,
        (∀ u : Stamped CataloguedEnum, other.find? n = some u → (c.merge other).find? n = some u) ∧
        (other.find? n = none → (c.merge other).find? n = c.find? n)) ∧
      (∀ m n : String, trimmed m = trimmed n →
        c.find? m = c.find? n ∧ c.contains m = c.contains n ∧
        ∀ {α : Type} (vs : List α), c.findFor? m vs = c.find? n) ∧
      (∀ n : String, isBlankText n = true → c.find? n = none ∧ c.contains n = false ∧
        ∀ {α : Type} (vs : List α), c.findFor? n vs = none)) ∧
    (∀ (source : Nat) (types : List CataloguedEnum) (n : String), trimmed n ≠ "" →
      (∀ before t rest, types = before ++ t :: rest → trimmed t.name = trimmed n →
        (∀ u ∈ before, trimmed u.name ≠ trimmed n) →
        (ofTypes source types).find? n = some ((ofTypes source before).fresh t)) ∧
      ((∀ u ∈ types, trimmed u.name ≠ trimmed n) → (ofTypes source types).find? n = none)) := by
  refine ⟨?_, ?_⟩
  · intro c hc
    refine ⟨filed_after actions c hc, ?_, ?_, ?_, ?_⟩
    · intro t
      refine ⟨add_eq_true_iff, ?_, fun n u h => find?_add_of_find? t h⟩
      intro hfalse
      apply add_of_not_accepts
      intro haccepts
      rw [add_eq_true_iff.mpr haccepts] at hfalse
      cases hfalse
    · intro other _ n
      rw [find?_merge]
      refine ⟨?_, ?_⟩
      · intro u hu
        rw [hu, Option.some_or]
      · intro hnone
        rw [hnone, Option.none_or]
    · intro m n hmn
      have hfind : c.find? m = c.find? n := c.find?_congr hmn
      exact ⟨hfind, by rw [contains, contains, hfind], fun _ => hfind⟩
    · intro n hn
      have hfind : c.find? n = none := c.find?_of_blank (trimmed_eq_empty_iff.mpr hn)
      exact ⟨hfind, by rw [contains, hfind]; rfl, fun _ => hfind⟩
  · intro source types n hblank
    rw [ofTypes_eq]
    refine ⟨?_, ?_⟩
    · rintro before t rest rfl hname hfirst
      rw [ofTypes_eq]
      exact find?_addAll_of_first (find?_empty source n) hname hblank hfirst
    · intro hnone
      rw [find?_addAll_of_ne hnone]
      exact find?_empty source n

/-- A type with one member. -/
def sampler : CataloguedEnum := .ofValues "Sampler" [.string "euler"]

/-- A type of the same name, padded, with two members. -/
def otherSampler : CataloguedEnum := .ofValues " Sampler " [.string "euler", .string "dpm"]

/-- The name stands for the type of the first catalog, whatever is added there, until the second catalog is
    merged in. -/
theorem names_stand_for_first_or_merged_sampler :
    ∃ c ∈ after [.make, .add 0 sampler, .make, .add 1 otherSampler],
    ∃ other ∈ after [.make, .add 0 sampler, .make, .add 1 otherSampler],
      c.find? "Sampler" = some ⟨⟨0, 0⟩, sampler⟩ ∧
      (c.add otherSampler).2.find? "Sampler" = some ⟨⟨0, 0⟩, sampler⟩ ∧
      (c.merge other).find? "Sampler" = some ⟨⟨1, 0⟩, otherSampler⟩ := by
  obtain ⟨hrun, hfirst⟩ :=
    names_stand_for_first_or_merged [.make, .add 0 sampler, .make, .add 1 otherSampler]
  have hblank : trimmed "Sampler" ≠ "" := by decide
  have hpadded : trimmed otherSampler.name = trimmed "Sampler" := by decide
  have hfound : (ofTypes 0 [sampler]).find? "Sampler" = some ⟨⟨0, 0⟩, sampler⟩ :=
    (hfirst 0 [sampler] "Sampler" hblank).1 [] sampler [] rfl rfl (by simp)
  have hfound' : (ofTypes 1 [otherSampler]).find? "Sampler" = some ⟨⟨1, 0⟩, otherSampler⟩ :=
    (hfirst 1 [otherSampler] "Sampler" hblank).1 [] otherSampler [] rfl hpadded (by simp)
  have hc : ofTypes 0 [sampler] ∈ after [.make, .add 0 sampler, .make, .add 1 otherSampler] :=
    List.mem_cons_self
  have hother : ofTypes 1 [otherSampler] ∈
      after [.make, .add 0 sampler, .make, .add 1 otherSampler] :=
    List.mem_cons_of_mem _ List.mem_cons_self
  obtain ⟨-, hadd, hmerge, -⟩ := hrun _ hc
  exact ⟨_, hc, _, hother, hfound, (hadd otherSampler).2.2 _ _ hfound,
    (hmerge _ hother _).1 _ hfound'⟩

end Catalog

end PinTypes
