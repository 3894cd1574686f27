import PinTypes.Enumeration.KeyIndex
import Mathlib.Data.String.Basic

/-!
# `PinTypes.Proofs.Enumeration.Tables` — what a table by name holds

A table is looked into in two ways: by a name, and by going through all its entries in the order of their
names. The first says what an entry is; what is said here of the second is said in terms of it.

## Contents
- **Going through the entries.** `pairwise_keys`; `values_eq_map_toList`, `mem_values_iff`,
  `pairwise_values`, `length_values`, `isEmpty_iff_values`.
- **Two tables.** `toList_perm_of_getElem?`, for tables that agree under every name.
- **Entering one by one.** `exists_rest`: all entries but one stay; `getElem?_foldl_insert`: of those that are
  entered under one name the last one stays.
-/

namespace PinTypes.Table

variable {α β : Type} {m : Std.TreeMap String α}

/-! ## Going through the entries -/

/-- The names come in strictly increasing order. -/
theorem pairwise_keys (m : Std.TreeMap String α) : m.keys.Pairwise (· < ·) :=
  Std.TreeMap.ordered_keys.imp compare_lt_iff_lt.mp

theorem values_eq_map_toList (m : Std.TreeMap String α) : m.values = m.toList.map Prod.snd := by
  show m.foldr (fun _ x xs => x :: xs) [] = _
  rw [Std.TreeMap.foldr_eq_foldr_toList, List.map_eq_foldr]

theorem mem_values_iff {x : α} : x ∈ m.values ↔ ∃ k : String, m[k]? = some x := by
  rw [values_eq_map_toList, List.mem_map]
  constructor
  · rintro ⟨⟨k, y⟩, hmem, rfl⟩
    exact ⟨k, Std.TreeMap.mem_toList_iff_getElem?_eq_some.mp hmem⟩
  · rintro ⟨k, hk⟩
    exact ⟨(k, x), Std.TreeMap.mem_toList_iff_getElem?_eq_some.mpr hk, rfl⟩

/-- What holds of the entries of any two names holds of any two entries that are gone through. -/
theorem pairwise_values {R : α → α → Prop}
    (h : ∀ (j k : String) (x y : α), m[j]? = some x → m[k]? = some y → j ≠ k → R x y) : m.values.Pairwise R := by
  rw [values_eq_map_toList, List.pairwise_map]
  refine Std.TreeMap.distinct_keys_toList.imp_of_mem ?_
  rintro ⟨j, x⟩ ⟨k, y⟩ hj hk hne
  apply h j k x y
  · exact Std.TreeMap.mem_toList_iff_getElem?_eq_some.mp hj
  · exact Std.TreeMap.mem_toList_iff_getElem?_eq_some.mp hk
  · exact fun hjk => hne (compare_eq_iff_eq.mpr hjk)

theorem length_values (m : Std.TreeMap String α) : m.values.length = m.size := by
  rw [values_eq_map_toList, List.length_map, Std.TreeMap.length_toList]

theorem isEmpty_iff_values : m.isEmpty = true ↔ m.values = [] := by
  rw [Std.TreeMap.isEmpty_eq_size_eq_zero, beq_iff_eq, ← length_values, List.length_eq_zero_iff]

/-! ## Two tables -/

theorem nodup_toList (m : Std.TreeMap String α) : m.toList.Nodup := by
  refine Std.TreeMap.distinct_keys_toList.imp ?_
  rintro p q hne rfl
  exact hne (compare_eq_iff_eq.mpr rfl)

theorem toList_perm_of_getElem? {m n : Std.TreeMap String α} (h : ∀ k : String, m[k]? = n[k]?) :
    m.toList.Perm n.toList := by
  rw [List.perm_ext_iff_of_nodup (nodup_toList m) (nodup_toList n)]
  rintro ⟨k, x⟩
  rw [Std.TreeMap.mem_toList_iff_getElem?_eq_some, Std.TreeMap.mem_toList_iff_getElem?_eq_some, h]

/-! ## Entering one by one -/

/-- **Entering changes one entry.** Beside the entry of the name there is a rest, and this is the same
    before and afterwards. -/
theorem exists_rest (m : Std.TreeMap String α) (k : String) :
    ∃ rest, (∀ x, (m.insert k x).values.Perm (x :: rest)) ∧ m.values.Perm (m[k]?.toList ++ rest) := by
  have hinsert (x : α) :
      (m.insert k x).values.Perm (x :: (m.toList.filter fun p => decide ¬(k == p.1) = true).map (·.2)) := by
    rw [values_eq_map_toList]
    exact Std.TreeMap.toList_insert_perm.map Prod.snd
  refine ⟨_, hinsert, ?_⟩
  cases hk : m[k]? with
  | some x =>
    -- entering what is there already changes nothing
    refine List.Perm.trans ?_ (hinsert x)
    rw [values_eq_map_toList, values_eq_map_toList]
    refine (toList_perm_of_getElem? fun j => ?_).map Prod.snd
    rw [Std.TreeMap.getElem?_insert]
    split
    · rename_i hj
      rw [← compare_eq_iff_eq.mp hj, hk]
    · rfl
  | none =>
    have hall : m.toList.filter (fun p => decide ¬(k == p.1) = true) = m.toList := by
      rw [List.filter_eq_self]
      rintro ⟨j, x⟩ hj
      rw [Std.TreeMap.mem_toList_iff_getElem?_eq_some] at hj
      have hne : k ≠ j := by
        rintro rfl
        rw [hk] at hj
        cases hj
      simpa using hne
    rw [hall, ← values_eq_map_toList]
    exact List.Perm.refl _

/-- **The last one stays.** Under a name stands what was entered last under it, and what was there before if
    nothing was. -/
theorem getElem?_foldl_insert (name : β → String) (value : β → α) (xs : List β)
    (m : Std.TreeMap String α) (k : String) :
    (xs.foldl (fun m x => m.insert (name x) (value x)) m)[k]? =
      ((xs.reverse.find? (name · == k)).map value).or m[k]? := by
  induction xs generalizing m with
  | nil => rfl
  | cons x xs ih =>
    rw [List.foldl_cons, ih, List.reverse_cons, List.find?_append, Std.TreeMap.getElem?_insert]
    cases xs.reverse.find? (name · == k) with
    | some y => rfl
    | none =>
      -- none of those that follow has the name, so it is for `x` to have it
      by_cases hx : name x = k
      · simp [hx]
      · have hne : compare (name x) k ≠ .eq := fun h => hx (compare_eq_iff_eq.mp h)
        simp [hx, hne]

end PinTypes.Table
