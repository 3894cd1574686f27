import PinTypes.Proofs.Enumeration.Catalog
import PinTypes.Proofs.Enumeration.Tables
import PinTypes.Proofs.Identifier.Readable
import Mathlib.Data.List.Dedup

/-!
# `PinTypes.Proofs.Enumeration.ValuesByName` — values by display name

The table of a type's values is made from its members in order, each entered under its display name. Two
members end up under one name exactly if they have the same label, because display names can be read back
(`Identifier.readable_injective`); the later one is entered over the earlier one then. So the table tells for
each label the value of the last member that carries it (`getElem?_valuesByName`), and no member is lost
unless a later one repeats its label.

## Contents
- **The table.** `valuesByName_of_find?`, `getElem?_valuesByName`.
- **Names in the table.** `mem_valuesByName_iff`, `keys_valuesByName_perm`.
- **Values in the table.** `valuesByName_of_last`.
- **Main statement.** `valuesByName_one_per_label`.
-/

namespace PinTypes

open Identifier (readable readable_injective)

/-- The display names beside the values, member by member. -/
theorem CataloguedEnum.zip_readableLabels (t : CataloguedEnum) :
    t.readableLabels.zip t.variants = t.members.map fun u => (readable u.label, u.value) := by
  rw [readableLabels, labels, variants, List.map_map, List.zip_map']
  rfl

namespace Catalog

section

variable {c : Catalog} {n : String} {t : Stamped CataloguedEnum} (h : c.find? n = some t)

include h

/-! ## The table -/

/-- Each member is entered under its display name, in order. -/
theorem valuesByName_of_find? :
    c.valuesByName n =
      t.type.members.foldl (fun values u => values.insert (readable u.label) u.value) ∅ := by
  unfold valuesByName
  rw [h]
  show (t.type.readableLabels.zip t.type.variants).foldl
    (fun (values : Std.TreeMap String Scalar) p => values.insert p.1 p.2) ∅ = _
  rw [CataloguedEnum.zip_readableLabels, List.foldl_map]

/-- **The last member counts.** Under a name stands the value of the last member of that display name. -/
theorem getElem?_valuesByName (name : String) :
    (c.valuesByName n)[name]? =
      (t.type.members.reverse.find? (readable ·.label == name)).map (·.value) := by
  rw [valuesByName_of_find? h, Table.getElem?_foldl_insert, Std.TreeMap.getElem?_emptyc, Option.or_none]

/-! ## Names in the table -/

theorem mem_valuesByName_iff {name : String} :
    name ∈ c.valuesByName n ↔ ∃ label ∈ t.type.labels, readable label = name := by
  rw [Std.TreeMap.mem_iff_isSome_getElem?, getElem?_valuesByName h, Option.isSome_map,
    List.find?_isSome]
  simp only [List.mem_reverse, beq_iff_eq, CataloguedEnum.labels, List.mem_map,
    exists_exists_and_eq_and]

/-- **One entry for each label.** The names in the table are the display names of the labels, of each label
    once however many members carry it. -/
theorem keys_valuesByName_perm : (c.valuesByName n).keys.Perm (t.type.labels.dedup.map readable) := by
  have hlabels : (t.type.labels.dedup.map readable).Nodup :=
    (List.nodup_dedup t.type.labels).map readable_injective
  rw [List.perm_ext_iff_of_nodup Std.TreeMap.nodup_keys hlabels]
  intro name
  rw [Std.TreeMap.mem_keys, mem_valuesByName_iff h, List.mem_map]
  simp only [List.mem_dedup]

/-! ## Values in the table -/

/-- A member that no later one repeats the label of has its value under its display name. -/
theorem valuesByName_of_last {before after : List Member} {u : Member}
    (hmembers : t.type.members = before ++ u :: after) (hlast : ∀ v ∈ after, v.label ≠ u.label) :
    (c.valuesByName n)[readable u.label]? = some u.value := by
  have hfound : t.type.members.reverse.find? (readable ·.label == readable u.label) = some u := by
    rw [List.find?_eq_some_iff_append]
    refine ⟨beq_self_eq_true _, after.reverse, before.reverse, by simp [hmembers], ?_⟩
    intro v hv
    have hne : readable v.label ≠ readable u.label :=
      fun he => hlast v (List.mem_reverse.mp hv) (readable_injective he)
    simp [hne]
  rw [getElem?_valuesByName h, hfound, Option.map_some]

/-- Where no label is repeated each member has its value under its display name. -/
theorem valuesByName_of_nodup (hnodup : t.type.labels.Nodup) {u : Member} (hu : u ∈ t.type.members) :
    (c.valuesByName n)[readable u.label]? = some u.value := by
  obtain ⟨before, after, hmembers⟩ := List.append_of_mem hu
  refine valuesByName_of_last h hmembers ?_
  rw [CataloguedEnum.labels, hmembers, List.map_append, List.map_cons] at hnodup
  have hbehind : u.label ∉ after.map (·.label) := (List.nodup_cons.mp hnodup.of_append_right).1
  intro v hv hsame
  exact hbehind (hsame ▸ List.mem_map_of_mem hv)

end

/-! ## Main statement -/

/-- **One value for each label.** Different labels have different display names. So for every name that stands
    for a type, the table of its values has one entry for each label that occurs among the members, under the
    display name of the label, and the value there is that of the last member that carries the label. If no
    label occurs twice, the table has as many entries as the type has members, and each member has its own
    value there. -/
theorem valuesByName_one_per_label :
    Function.Injective readable ∧
    ∀ (c : Catalog) (n : String) (t : Stamped CataloguedEnum), c.find? n = some t →
      (c.valuesByName n).keys.Perm (t.type.labels.dedup.map readable) ∧
      (∀ before u after, t.type.members = before ++ u :: after → (∀ v ∈ after, v.label ≠ u.label) →
        (c.valuesByName n)[readable u.label]? = some u.value) ∧
      (t.type.labels.Nodup →
        (c.valuesByName n).size = t.type.variants.length ∧
        ∀ u ∈ t.type.members, (c.valuesByName n)[readable u.label]? = some u.value) := by
  refine ⟨readable_injective, ?_⟩
  intro c n t h
  refine ⟨keys_valuesByName_perm h, fun before u after => valuesByName_of_last h, ?_⟩
  intro hnodup
  refine ⟨?_, fun u => valuesByName_of_nodup h hnodup⟩
  have hlength := (keys_valuesByName_perm h).length_eq
  rw [Std.TreeMap.length_keys, hnodup.dedup, List.length_map] at hlength
  rw [hlength, CataloguedEnum.labels, CataloguedEnum.variants, List.length_map, List.length_map]

/-- A type in which a label is repeated, and another one has its blank already. -/
def pace : CataloguedEnum := .ofMembers "Pace" [
  { label := "FastMode", value := .string "fast" },
  { label := "Slow Mode", value := .string "slow" },
  { label := "FastMode", value := .string "faster" }]

/-- Of the two members of one label the later one is in the table, and the blank that a label has itself is
    kept beside the one that is put there. -/
theorem valuesByName_one_per_label_pace :
    (ofTypes 0 [pace]).find? " Pace " = some ⟨⟨0, 0⟩, pace⟩ ∧
    ((ofTypes 0 [pace]).valuesByName " Pace ").size = 2 ∧
    ((ofTypes 0 [pace]).valuesByName " Pace ")["Fast Mode"]? = some (.string "faster") ∧
    ((ofTypes 0 [pace]).valuesByName " Pace ")["Slow  Mode"]? = some (.string "slow") := by
  have hfind : (ofTypes 0 [pace]).find? " Pace " = some ⟨⟨0, 0⟩, pace⟩ :=
    find?_ofTypes_singleton 0 (by decide) (by decide)
  obtain ⟨hkeys, hlast, -⟩ := valuesByName_one_per_label.2 _ _ _ hfind
  have hsize := hkeys.length_eq
  rw [Std.TreeMap.length_keys] at hsize
  refine ⟨hfind, hsize, ?_, ?_⟩
  · exact hlast (pace.members.take 2) { label := "FastMode", value := .string "faster" } [] rfl (by simp)
  · exact hlast (pace.members.take 1) { label := "Slow Mode", value := .string "slow" }
      (pace.members.drop 2) rfl (by decide)

end Catalog

end PinTypes
