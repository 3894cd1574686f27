import PinTypes.Proofs.Enumeration.Catalog

/-!
# `PinTypes.Proofs.Enumeration.Stamps` — instances are told apart by their stamps

A catalog stamps what is added with its own number and with the count of what it has added so far. Merging moves
instances from one catalog to another, so the stamps in a catalog may name any other one as their source. What
holds throughout is said of all catalogs together (`Told`): a stamp names a catalog that there is, and a
count that this catalog has reached already. The stamp that is issued next is on no instance then, and no two
instances come to share one.

An instance that stands in a catalog after one action stood in one before or was issued just now
(`held_perform`), and that carries the invariant through every run (`told_after`).

## Contents
- **One action.** `length_le_perform`, `add_source`, `add_issued_le`.
- **Instances.** `Held`, `held_perform`.
- **Runs.** `Told`, `told_perform`, `told_after`.
- **One catalog.** `name_eq_of_stamp`: an instance stands under one name only.
-/

namespace PinTypes.Catalog

open PinTypes.Text (trimmed)

variable {shelf : List Catalog}

/-! ## One action -/

theorem length_le_perform (shelf : List Catalog) (a : Action) :
    shelf.length ≤ (perform shelf a).length := by
  cases a with
  | make => simp [perform]
  | add i t => simp [perform]
  | merge i j =>
    simp only [perform]
    split
    · split <;> simp
    · exact le_refl _

theorem add_source (c : Catalog) (t : CataloguedEnum) : (c.add t).2.source = c.source := by
  simp only [add]
  split <;> rfl

theorem add_issued_le (c : Catalog) (t : CataloguedEnum) : c.issued ≤ (c.add t).2.issued := by
  rcases c.add_cases t with ⟨-, -, hissued, -⟩ | ⟨-, hadd⟩
  · omega
  · rw [hadd]

/-! ## Instances -/

/-- The instance stands in one of the catalogs. -/
def Held (shelf : List Catalog) (t : Stamped CataloguedEnum) : Prop :=
  ∃ c ∈ shelf, ∃ name : String, c.entries[name]? = some t

theorem held_of_getElem? {i : Nat} {c : Catalog} (hc : shelf[i]? = some c) {name : String}
    {t : Stamped CataloguedEnum} (h : c.entries[name]? = some t) : Held shelf t :=
  ⟨c, List.mem_of_getElem? hc, name, h⟩

/-- **An instance that stands in a catalog stood in one before,** unless it was issued just now. -/
theorem held_perform {a : Action} {u : Stamped CataloguedEnum} (h : Held (perform shelf a) u) :
    Held shelf u ∨
      ∃ i t c, a = .add i t ∧ shelf[i]? = some c ∧ c.Accepts t ∧ u = c.fresh t := by
  obtain ⟨c, hc, name, hname⟩ := h
  obtain ⟨i, hi⟩ := List.mem_iff_getElem?.mp hc
  cases follows_perform hi with
  | kept hkept => exact Or.inl (held_of_getElem? hkept hname)
  | made => simp [empty] at hname
  | @added t d hd =>
    rcases d.add_cases t with ⟨haccepts, -, -, hentries⟩ | ⟨-, hadd⟩
    · rw [hentries, Std.TreeMap.getElem?_insert] at hname
      split at hname
      · exact Or.inr ⟨i, t, d, rfl, hd, haccepts, (Option.some.inj hname).symm⟩
      · exact Or.inl (held_of_getElem? hd hname)
    · rw [hadd] at hname
      exact Or.inl (held_of_getElem? hd hname)
  | merged hd hother =>
    rw [getElem?_merge, Option.or_eq_some_iff] at hname
    rcases hname with hname | ⟨-, hname⟩
    · exact Or.inl (held_of_getElem? hother hname)
    · exact Or.inl (held_of_getElem? hd hname)
  | cleared => simp [cleared] at hname

/-! ## Runs -/

/-- Instances are told apart by their stamps. -/
structure Told (shelf : List Catalog) : Prop where
  /-- A catalog stamps with the number of its place. -/
  numbered : ∀ (i : Nat) (c : Catalog), shelf[i]? = some c → c.source = i
  /-- A stamp was issued by a catalog that there is. -/
  issued : ∀ u, Held shelf u →
    ∃ c, shelf[u.stamp.source]? = some c ∧ u.stamp.serial < c.issued
  /-- No two instances share a stamp. -/
  eq_of_stamp : ∀ u v, Held shelf u → Held shelf v → u.stamp = v.stamp → u = v

/-- A place keeps its number, and no count goes back. -/
theorem Told.follows (h : Told shelf) {a : Action} {i : Nat} {c d : Catalog} (hc : shelf[i]? = some c)
    (hd : (perform shelf a)[i]? = some d) : d.source = i ∧ c.issued ≤ d.issued := by
  have hsource := h.numbered i c hc
  cases follows_perform hd with
  | kept h => cases hc.symm.trans h; exact ⟨hsource, le_refl _⟩
  | made hi =>
    rw [hi, List.getElem?_eq_none (le_refl _)] at hc
    cases hc
  | added h => cases hc.symm.trans h; exact ⟨(add_source c _).trans hsource, add_issued_le c _⟩
  | merged h => cases hc.symm.trans h; exact ⟨hsource, le_refl _⟩
  | cleared h => cases hc.symm.trans h; exact ⟨hsource, le_refl _⟩

/-- The instance that a catalog issues next is in no catalog yet. -/
theorem Told.not_held_fresh (h : Told shelf) {i : Nat} {c : Catalog} (hc : shelf[i]? = some c)
    {u : Stamped CataloguedEnum} (hu : Held shelf u) (t : CataloguedEnum) :
    u.stamp ≠ (c.fresh t).stamp := by
  intro hstamp
  obtain ⟨d, hd, hserial⟩ := h.issued u hu
  have hsource : (c.fresh t).stamp.source = i := h.numbered i c hc
  rw [hstamp, hsource, hc] at hd
  cases hd
  rw [hstamp] at hserial
  exact absurd hserial (lt_irrefl c.issued)

/-- **One action.** -/
theorem told_perform (h : Told shelf) (a : Action) : Told (perform shelf a) where
  numbered := by
    intro i d hd
    cases hc : shelf[i]? with
    | some c => exact (h.follows hc hd).1
    | none =>
      cases follows_perform hd with
      | made => rfl
      | kept hkept => cases hc.symm.trans hkept
      | added hadded => cases hc.symm.trans hadded
      | merged hmerged => cases hc.symm.trans hmerged
      | cleared hcleared => cases hc.symm.trans hcleared
  issued := by
    intro u hu
    rcases held_perform hu with hold | ⟨i, t, c, rfl, hc, haccepts, rfl⟩
    · obtain ⟨c, hc, hserial⟩ := h.issued u hold
      have hlt : u.stamp.source < (perform shelf a).length :=
        lt_of_lt_of_le (List.getElem?_eq_some_iff.mp hc).1 (length_le_perform shelf a)
      have hd := List.getElem?_eq_getElem hlt
      exact ⟨_, hd, lt_of_lt_of_le hserial (h.follows hc hd).2⟩
    · have hplace : (perform shelf (.add i t))[i]? = some (c.add t).2 := by
        rw [perform, List.getElem?_modify_eq, hc]
        rfl
      have hsource : (c.fresh t).stamp.source = i := h.numbered i c hc
      refine ⟨(c.add t).2, hsource ▸ hplace, ?_⟩
      rcases c.add_cases t with ⟨-, -, hissued, -⟩ | ⟨hrefused, -⟩
      · rw [hissued]
        exact Nat.lt_succ_self c.issued
      · exact absurd haccepts hrefused
  eq_of_stamp := by
    intro u v hu hv hstamp
    rcases held_perform hu with holdu | ⟨i, t, c, rfl, hc, -, rfl⟩
    · rcases held_perform hv with holdv | ⟨i, t, c, rfl, hc, -, rfl⟩
      · exact h.eq_of_stamp u v holdu holdv hstamp
      · exact absurd hstamp (h.not_held_fresh hc holdu t)
    · rcases held_perform hv with holdv | ⟨j, s, d, hadd, hd, -, rfl⟩
      · exact absurd hstamp.symm (h.not_held_fresh hc holdv t)
      · -- one action issues one instance
        cases hadd
        cases hc.symm.trans hd
        rfl

/-- **Every run.** -/
theorem told_after (actions : List Action) : Told (after actions) := by
  induction actions using List.reverseRecOn with
  | nil =>
    refine ⟨fun i c hc => ?_, fun u hu => ?_, fun u v hu => ?_⟩
    · cases hc
    · obtain ⟨c, hc, -⟩ := hu
      cases hc
    · obtain ⟨c, hc, -⟩ := hu
      cases hc
  | append_singleton actions a ih =>
    rw [after, List.foldl_append]
    exact told_perform ih a

/-! ## One catalog -/

/-- **An instance stands under one name only,** the trimmed name of its type. -/
theorem name_eq_of_stamp {actions : List Action} {c : Catalog} (hc : c ∈ after actions) {j k : String}
    {u v : Stamped CataloguedEnum} (hu : c.entries[j]? = some u) (hv : c.entries[k]? = some v)
    (hstamp : u.stamp = v.stamp) : j = k := by
  have hsame : u = v := (told_after actions).eq_of_stamp u v ⟨c, hc, j, hu⟩ ⟨c, hc, k, hv⟩ hstamp
  have hj : j = trimmed u.type.name := (filed_after actions c hc j u hu).1
  have hk : k = trimmed v.type.name := (filed_after actions c hc k v hv).1
  rw [hj, hk, hsame]

end PinTypes.Catalog
