import PinTypes.Proofs.Enumeration.Stamps
import PinTypes.Proofs.Enumeration.Tables
import Mathlib.Algebra.GroupWithZero.Nat

/-!
# `PinTypes.Proofs.Enumeration.CatalogViews` — the views of a catalog agree

A catalog is looked at in several ways: by one name, by all names, by groups. All of them show the same entries.
That an entry stands under the trimmed name of its type and nowhere else (`filed_after`) makes the names and
the lookups agree; that no two entries carry one stamp (`name_eq_of_stamp`) makes the instances in the groups
as many as the names.

The groups are made by going through the entries, in whatever order, and putting each behind those of its group.
One step adds one instance and loses none (`values_addToGroup_perm`), so the groups together are a rearrangement
of the entries (`values_groupsOf_perm`). That a group is never empty and holds nothing of another group is an
invariant of the steps, `Grouped`. What is known of the groups (`PartitionedBy`) does not depend on the order,
which shows in the order within each group alone (`groupsOf_perm`).

## Contents
- **Lookups and names.** `find?_eq_some_iff`, `exists_find?_iff`, `mem_names_iff`.
- **One step of grouping.** `values_addToGroup_perm`, `Grouped.addToGroup`, `getD_addToGroup`.
- **The groups.** `groupsOf`, `values_groupsOf_perm`, `grouped_groupsOf`, `groupsOf_perm`.
- **All entries in groups.** `nodup_stamps`, `PartitionedBy`, `partitionedBy_groupsOf`.
- **Main statement.** `Catalog.views_agree`.
-/

namespace PinTypes.Catalog

open PinTypes.Text (trimmed)
open scoped List

variable {c : Catalog}

/-! ## Lookups and names -/

/-- A name stands for the entry under its trimmed form. -/
theorem find?_eq_some_iff (h : c.Filed) {n : String} {u : Stamped CataloguedEnum} :
    c.find? n = some u ↔ c.entries[trimmed n]? = some u := by
  by_cases hblank : trimmed n = ""
  · rw [c.find?_of_blank hblank]
    exact ⟨nofun, fun hu => absurd hblank (h _ u hu).2⟩
  · rw [c.find?_of_ne_empty hblank]

/-- What some name stands for are the entries. -/
theorem exists_find?_iff (h : c.Filed) {u : Stamped CataloguedEnum} :
    (∃ n, c.find? n = some u) ↔ ∃ name : String, c.entries[name]? = some u := by
  constructor
  · rintro ⟨n, hn⟩
    exact ⟨trimmed n, (find?_eq_some_iff h).mp hn⟩
  · rintro ⟨name, hname⟩
    obtain ⟨rfl, -⟩ := h name u hname
    exact ⟨u.type.name, (find?_eq_some_iff h).mpr hname⟩

theorem mem_names_iff (h : c.Filed) {name : String} :
    name ∈ c.names ↔ ∃ n, c.contains n = true ∧ trimmed n = name := by
  rw [names, Std.TreeMap.mem_keys, Std.TreeMap.mem_iff_isSome_getElem?, Option.isSome_iff_exists]
  simp only [contains, Option.isSome_iff_exists, find?_eq_some_iff h]
  constructor
  · rintro ⟨u, hu⟩
    obtain ⟨rfl, -⟩ := h name u hu
    exact ⟨u.type.name, ⟨u, hu⟩, rfl⟩
  · rintro ⟨n, hu, rfl⟩
    exact hu

/-! ## One step of grouping -/

section

variable {groups : Std.TreeMap String (List (Stamped CataloguedEnum))}

/-- **A step adds one instance and loses none.** -/
theorem values_addToGroup_perm (groups : Std.TreeMap String (List (Stamped CataloguedEnum)))
    (t : Stamped CataloguedEnum) : (addToGroup groups t).values.flatten ~ t :: groups.values.flatten := by
  obtain ⟨rest, hinsert, hbefore⟩ := Table.exists_rest groups t.type.group
  have hgroups : groups.values.flatten ~ groups.getD t.type.group [] ++ rest.flatten := by
    refine hbefore.flatten.trans (.of_eq ?_)
    rw [Std.TreeMap.getD_eq_getD_getElem?]
    cases groups[t.type.group]? <;> simp
  calc (addToGroup groups t).values.flatten
    _ ~ ((groups.getD t.type.group [] ++ [t]) :: rest).flatten := (hinsert _).flatten
    _ = groups.getD t.type.group [] ++ t :: rest.flatten := by simp
    _ ~ t :: (groups.getD t.type.group [] ++ rest.flatten) := List.perm_middle
    _ ~ t :: groups.values.flatten := hgroups.symm.cons t

/-- No group is empty, and each holds instances of its own name alone. -/
def Grouped (groups : Std.TreeMap String (List (Stamped CataloguedEnum))) : Prop :=
  ∀ (group : String) (ts : List (Stamped CataloguedEnum)), groups[group]? = some ts →
    ts ≠ [] ∧ ∀ u ∈ ts, u.type.group = group

theorem Grouped.addToGroup (h : Grouped groups) (t : Stamped CataloguedEnum) :
    Grouped (addToGroup groups t) := by
  intro group ts hts
  rw [Catalog.addToGroup, Std.TreeMap.getElem?_insert] at hts
  split at hts
  · rename_i hgroup
    obtain rfl := compare_eq_iff_eq.mp hgroup
    obtain rfl := Option.some.inj hts
    refine ⟨List.append_ne_nil_of_right_ne_nil _ (List.cons_ne_nil t []), ?_⟩
    intro u hu
    rcases List.mem_append.mp hu with hu | hu
    · rw [Std.TreeMap.getD_eq_getD_getElem?] at hu
      cases hold : groups[t.type.group]? with
      | none => simp [hold] at hu
      | some old =>
        rw [hold] at hu
        exact (h _ old hold).2 u hu
    · rw [List.mem_singleton.mp hu]
  · exact h group ts hts

/-- The new instance goes behind those of its group, and the other groups stay as they are. -/
theorem getD_addToGroup (groups : Std.TreeMap String (List (Stamped CataloguedEnum)))
    (t : Stamped CataloguedEnum) (group : String) :
    (addToGroup groups t).getD group [] =
      groups.getD group [] ++ if t.type.group = group then [t] else [] := by
  rw [addToGroup, Std.TreeMap.getD_insert]
  by_cases h : t.type.group = group
  · rw [if_pos (compare_eq_iff_eq.mpr h), if_pos h, h]
  · rw [if_neg fun he => h (compare_eq_iff_eq.mp he), if_neg h, List.append_nil]

end

/-! ## The groups -/

/-- The groups that come of going through instances in that order. -/
def groupsOf (ts : List (Stamped CataloguedEnum)) : Std.TreeMap String (List (Stamped CataloguedEnum)) :=
  ts.foldl addToGroup ∅

theorem groupsOf_concat (ts : List (Stamped CataloguedEnum)) (t : Stamped CataloguedEnum) :
    groupsOf (ts ++ [t]) = addToGroup (groupsOf ts) t := by
  rw [groupsOf, List.foldl_concat]
  rfl

/-- **The groups together are the instances in another order.** -/
theorem values_groupsOf_perm (ts : List (Stamped CataloguedEnum)) :
    (groupsOf ts).values.flatten ~ ts := by
  induction ts using List.reverseRecOn with
  | nil => exact .refl _
  | append_singleton ts t ih =>
    rw [groupsOf_concat]
    calc (addToGroup (groupsOf ts) t).values.flatten
      _ ~ t :: (groupsOf ts).values.flatten := values_addToGroup_perm _ t
      _ ~ t :: ts := ih.cons t
      _ ~ ts ++ [t] := (List.perm_append_singleton t ts).symm

theorem grouped_groupsOf (ts : List (Stamped CataloguedEnum)) : Grouped (groupsOf ts) := by
  induction ts using List.reverseRecOn with
  | nil =>
    intro group us hus
    rw [groupsOf, List.foldl_nil, Std.TreeMap.getElem?_emptyc] at hus
    cases hus
  | append_singleton ts t ih =>
    rw [groupsOf_concat]
    exact ih.addToGroup t

/-- A group holds the instances that name it, in the order in which they were gone through. -/
theorem getD_groupsOf (ts : List (Stamped CataloguedEnum)) (group : String) :
    (groupsOf ts).getD group [] = ts.filter (·.type.group = group) := by
  induction ts using List.reverseRecOn with
  | nil => rfl
  | append_singleton ts t ih =>
    rw [groupsOf_concat, getD_addToGroup, ih, List.filter_append]
    by_cases h : t.type.group = group <;> simp [h]

/-- **The order shows within the groups alone.** -/
theorem groupsOf_perm {ts us : List (Stamped CataloguedEnum)} (h : ts ~ us) (group : String) :
    (groupsOf ts).getD group [] ~ (groupsOf us).getD group [] := by
  rw [getD_groupsOf, getD_groupsOf]
  exact h.filter _

theorem exists_group_iff {ts : List (Stamped CataloguedEnum)} {u : Stamped CataloguedEnum} :
    (∃ (group : String) (us : List (Stamped CataloguedEnum)),
      (groupsOf ts)[group]? = some us ∧ u ∈ us) ↔ u ∈ ts := by
  rw [← (values_groupsOf_perm ts).mem_iff, List.mem_flatten]
  constructor
  · rintro ⟨group, us, hus, hu⟩
    exact ⟨us, Table.mem_values_iff.mpr ⟨group, hus⟩, hu⟩
  · rintro ⟨us, hus, hu⟩
    obtain ⟨group, hgroup⟩ := Table.mem_values_iff.mp hus
    exact ⟨group, us, hgroup, hu⟩

theorem isEmpty_groupsOf_iff {ts : List (Stamped CataloguedEnum)} :
    (groupsOf ts).isEmpty = true ↔ ts = [] := by
  rw [Table.isEmpty_iff_values]
  constructor
  · intro h
    have hperm := values_groupsOf_perm ts
    rw [h, List.flatten_nil] at hperm
    exact hperm.nil_eq.symm
  · rintro rfl
    rfl

/-! ## All entries in groups -/

theorem isEmpty_iff_names (c : Catalog) : c.isEmpty = true ↔ c.names = [] := by
  rw [names, isEmpty, ← Std.TreeMap.isEmpty_keys, List.isEmpty_iff]

/-- **No two entries have one stamp.** -/
theorem nodup_stamps {actions : List Action} (hc : c ∈ after actions) :
    (c.entries.values.map (·.stamp)).Nodup := by
  rw [List.Nodup, List.pairwise_map]
  apply Table.pairwise_values
  intro j k u v hu hv hne hstamp
  exact hne (name_eq_of_stamp hc hu hv hstamp)

/-- The groups are made of the entries of the catalog. -/
structure PartitionedBy (c : Catalog) (groups : Std.TreeMap String (List (Stamped CataloguedEnum))) :
    Prop where
  /-- What is in a group is what some name stands for. -/
  found_iff : ∀ u : Stamped CataloguedEnum, (∃ n, c.find? n = some u) ↔
    ∃ (group : String) (ts : List (Stamped CataloguedEnum)), groups[group]? = some ts ∧ u ∈ ts
  /-- No instance is in the groups twice. -/
  nodup : (groups.values.flatten.map (·.stamp)).Nodup
  /-- No group is empty, and each holds what names it alone. -/
  grouped : ∀ (group : String) (ts : List (Stamped CataloguedEnum)), groups[group]? = some ts →
    ts ≠ [] ∧ ∀ u ∈ ts, u.type.group = group
  sum_eq : (groups.values.map List.length).sum = c.size
  isEmpty_iff : c.isEmpty = true ↔ groups.isEmpty = true

/-- What a name stands for is in the group that its type names. -/
theorem PartitionedBy.exists_own_group {groups : Std.TreeMap String (List (Stamped CataloguedEnum))}
    (h : c.PartitionedBy groups) {n : String} {u : Stamped CataloguedEnum} (hu : c.find? n = some u) :
    ∃ ts, groups[u.type.group]? = some ts ∧ u ∈ ts := by
  obtain ⟨group, ts, hts, hmem⟩ := (h.found_iff u).mp ⟨n, hu⟩
  obtain rfl : u.type.group = group := (h.grouped group ts hts).2 u hmem
  exact ⟨ts, hts, hmem⟩

/-- The entries are put in groups, in whatever order they are gone through. -/
theorem partitionedBy_groupsOf {actions : List Action} (hc : c ∈ after actions)
    {ts : List (Stamped CataloguedEnum)} (hts : ts ~ c.entries.values) :
    c.PartitionedBy (groupsOf ts) where
  found_iff := by
    intro u
    rw [exists_find?_iff (filed_after actions c hc), exists_group_iff, hts.mem_iff, Table.mem_values_iff]
  nodup := by
    have hperm := ((values_groupsOf_perm ts).trans hts).map (·.stamp)
    exact hperm.nodup_iff.mpr (nodup_stamps hc)
  grouped := grouped_groupsOf ts
  sum_eq := by
    have hperm := (values_groupsOf_perm ts).trans hts
    rw [← List.length_flatten, hperm.length_eq, Table.length_values, size]
  isEmpty_iff := by
    rw [isEmpty, Table.isEmpty_iff_values, isEmpty_groupsOf_iff]
    constructor
    · intro h
      exact (h ▸ hts).eq_nil
    · rintro rfl
      exact hts.nil_eq.symm

/-! ## Main statement -/

/-- **The views of a catalog agree.** After any run of actions, the names of a catalog are in strictly increasing
    order, as many as it has entries, and they are the trimmed forms of those that stand for an instance.
    Its groups hold the instances that names stand for and no others: each one once, by its stamp, in the
    group that its type names, and no group is empty; so the sizes of the groups add up to the
    number of entries. The same holds of the groups that come of going through the entries in any other order;
    each of them has the same instances. The catalog is empty exactly if there are no names, and exactly if
    there are no groups. The labels of a name are those of the type that it stands for, and none if there is no
    such type. -/
theorem views_agree (actions : List Action) : ∀ c ∈ after actions,
    (c.names.Pairwise (· < ·) ∧ c.names.length = c.size ∧
      ∀ name, name ∈ c.names ↔ ∃ n, c.contains n = true ∧ trimmed n = name) ∧
    (c.PartitionedBy c.byGroup ∧
      ∀ order : List (Stamped CataloguedEnum), order ~ c.entries.values →
        c.PartitionedBy (order.foldl addToGroup ∅) ∧
          ∀ group : String, (order.foldl addToGroup ∅).getD group [] ~ c.byGroup.getD group []) ∧
    ((c.isEmpty = true ↔ c.names = []) ∧ (c.isEmpty = true ↔ c.byGroup.isEmpty = true)) ∧
    ∀ n : String,
      (∀ u, c.find? n = some u → c.labelsOf n = u.type.labels) ∧
      (c.find? n = none → c.labelsOf n = []) := by
  intro c hc
  have hfiled : c.Filed := filed_after actions c hc
  have hgroups : c.PartitionedBy c.byGroup := partitionedBy_groupsOf hc (.refl _)
  refine ⟨⟨Table.pairwise_keys _, Std.TreeMap.length_keys, fun name => mem_names_iff hfiled⟩,
    ⟨hgroups, fun order horder => ⟨partitionedBy_groupsOf hc horder, groupsOf_perm horder⟩⟩,
    ⟨c.isEmpty_iff_names, hgroups.isEmpty_iff⟩, fun n => ⟨fun u hu => ?_, fun hnone => ?_⟩⟩
  · rw [labelsOf, hu]
  · rw [labelsOf, hnone]

/-- A type of another group. -/
def scheduler : CataloguedEnum := .inGroup (.ofValues "Scheduler" [.string "linear"]) "Timing"

/-- Two catalogs are filled and one is merged into the other: the type that is merged in replaces the one of its
    name, and the views of what comes out show it once, beside the type that was kept, from whichever end the
    entries are gone through. -/
theorem views_agree_merged :
    ∃ c ∈ after [.make, .add 0 sampler, .add 0 scheduler, .make, .add 1 otherSampler, .merge 0 1],
      c.find? "Sampler" = some ⟨⟨1, 0⟩, otherSampler⟩ ∧ c.labelsOf "Sampler" = otherSampler.labels ∧
      "Sampler" ∈ c.names ∧ (∃ n, c.contains n = true ∧ trimmed n = "Sampler") ∧
      (∃ ts, c.byGroup["Other"]? = some ts ∧ ⟨⟨1, 0⟩, otherSampler⟩ ∈ ts) ∧
      c.entries.values.reverse ~ c.entries.values ∧
        ∃ ts, (c.entries.values.reverse.foldl addToGroup ∅)["Other"]? = some ts ∧
          ⟨⟨1, 0⟩, otherSampler⟩ ∈ ts := by
  let merged := (ofTypes 0 [sampler, scheduler]).merge (ofTypes 1 [otherSampler])
  have hc : merged ∈
      after [.make, .add 0 sampler, .add 0 scheduler, .make, .add 1 otherSampler, .merge 0 1] :=
    List.mem_cons_self
  have hother : (ofTypes 1 [otherSampler]).find? "Sampler" = some ⟨⟨1, 0⟩, otherSampler⟩ :=
    find?_ofTypes_singleton 1 (by decide) (by decide)
  have hfind : merged.find? "Sampler" = some ⟨⟨1, 0⟩, otherSampler⟩ := by
    rw [find?_merge, hother, Option.some_or]
  obtain ⟨⟨-, -, hnames⟩, ⟨hgroups, hanyOrder⟩, -, hlabels⟩ := views_agree _ merged hc
  have hcontains : ∃ n, merged.contains n = true ∧ trimmed n = "Sampler" :=
    ⟨"Sampler", by rw [contains, hfind]; rfl, by decide⟩
  have hreverse : merged.entries.values.reverse ~ merged.entries.values := List.reverse_perm _
  exact ⟨merged, hc, hfind, (hlabels "Sampler").1 _ hfind, (hnames "Sampler").mpr hcontains, hcontains,
    hgroups.exists_own_group hfind, hreverse, (hanyOrder _ hreverse).1.exists_own_group hfind⟩

end PinTypes.Catalog
