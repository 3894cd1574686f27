import PinTypes.Json.Basic
import Mathlib.Data.String.Basic
import Mathlib.Data.List.Perm.Basic

/-!
# `PinTypes.Proofs.Json.Order` — values in order

The members of an object are kept in order of their names, each name once. A value is *in order* if that
holds of every object in it, however deep. Bringing a value into canonical form puts it in order, and
changes nothing in a value that was: the values in order are those that equal their canonical form. For a
reader that looks for members by name the order does not matter: if no name is repeated, the members of
the canonical form are those of the object in another order.

## Contents
- **Placing a member.** `mem_place`, `pairwise_place`, `place_of_forall_lt`, `place_perm`.
- **Values in order.** `Json.InOrder`, `canonical_of_inOrder`, `inOrder_canonical`,
  **`canonical_eq_self_iff`**.
- **Members in another order.** `canonicalItems_eq_map`, `canonicalMembers_perm`.
- **Depth.** `depth_le_itemsDepth`, `depth_le_membersDepth`.
-/

namespace PinTypes.Json

/-! ## Placing a member -/

/-- Nothing but the placed member is new. -/
theorem mem_place {name : String} {value : Json} {m : String × Json} {ms : List (String × Json)}
    (h : m ∈ place name value ms) : m = (name, value) ∨ m ∈ ms := by
  induction ms with
  | nil => exact Or.inl (List.mem_singleton.mp h)
  | cons first rest ih =>
    unfold place at h
    by_cases hlt : name < first.1
    · rw [if_pos hlt] at h
      exact List.mem_cons.mp h
    · rw [if_neg hlt] at h
      by_cases heq : name = first.1
      · rw [if_pos heq] at h
        exact Or.inr h
      · rw [if_neg heq] at h
        rcases List.mem_cons.mp h with rfl | hrest
        · exact Or.inr List.mem_cons_self
        · rcases ih hrest with rfl | hmem
          · exact Or.inl rfl
          · exact Or.inr (List.mem_cons_of_mem _ hmem)

/-- Members in order of their names stay so. -/
theorem pairwise_place {name : String} {value : Json} {ms : List (String × Json)}
    (h : ms.Pairwise (·.1 < ·.1)) : (place name value ms).Pairwise (·.1 < ·.1) := by
  induction ms with
  | nil => exact List.pairwise_singleton _ _
  | cons first rest ih =>
    obtain ⟨hfirst, hrest⟩ := List.pairwise_cons.mp h
    unfold place
    by_cases hlt : name < first.1
    · rw [if_pos hlt]
      apply List.pairwise_cons.mpr ⟨?_, h⟩
      intro m hm
      rcases List.mem_cons.mp hm with rfl | hm
      · exact hlt
      · exact lt_trans hlt (hfirst m hm)
    · rw [if_neg hlt]
      by_cases heq : name = first.1
      · rw [if_pos heq]
        exact h
      · rw [if_neg heq]
        have hgt : first.1 < name := lt_of_le_of_ne (not_lt.mp hlt) (Ne.symm heq)
        apply List.pairwise_cons.mpr ⟨?_, ih hrest⟩
        intro m hm
        rcases mem_place hm with rfl | hm
        · exact hgt
        · exact hfirst m hm

/-- A member whose name comes first stands in front. -/
theorem place_of_forall_lt {name : String} {value : Json} {ms : List (String × Json)}
    (h : ∀ m ∈ ms, name < m.1) : place name value ms = (name, value) :: ms := by
  cases ms with
  | nil => rfl
  | cons first rest =>
    unfold place
    rw [if_pos (h first List.mem_cons_self)]

/-- A member of a new name is added. -/
theorem place_perm {name : String} {value : Json} {ms : List (String × Json)}
    (h : ∀ m ∈ ms, m.1 ≠ name) : (place name value ms).Perm ((name, value) :: ms) := by
  induction ms with
  | nil => exact List.Perm.refl _
  | cons first rest ih =>
    unfold place
    have hne : ¬name = first.1 := fun heq => h first List.mem_cons_self heq.symm
    by_cases hlt : name < first.1
    · rw [if_pos hlt]
    · rw [if_neg hlt, if_neg hne]
      have hrest := ih fun m hm => h m (List.mem_cons_of_mem _ hm)
      exact (hrest.cons first).trans (List.Perm.swap _ _ _)

/-! ## Values in order -/

/-- Every object in the value has its members in order of their names, each name once. -/
inductive InOrder : Json → Prop
  | null : InOrder .null
  | bool (b : Bool) : InOrder (.bool b)
  | number (n : Json.Number) : InOrder (.number n)
  | string (s : String) : InOrder (.string s)
  | array {items : List Json} (values : ∀ x ∈ items, InOrder x) : InOrder (.array items)
  | object {members : List (String × Json)} (names : members.Pairwise (·.1 < ·.1))
      (values : ∀ m ∈ members, InOrder m.2) : InOrder (.object members)

theorem canonicalItems_eq_map (xs : List Json) : canonicalItems xs = xs.map canonical := by
  induction xs with
  | nil => rfl
  | cons x xs ih => rw [canonicalItems, ih, List.map_cons]

/-- Members that are in order, with values in canonical form, stay as they are. -/
theorem canonicalMembers_of_pairwise {ms : List (String × Json)} (names : ms.Pairwise (·.1 < ·.1))
    (values : ∀ m ∈ ms, m.2.canonical = m.2) : canonicalMembers ms = ms := by
  induction ms with
  | nil => rfl
  | cons m ms ih =>
    obtain ⟨hfirst, hrest⟩ := List.pairwise_cons.mp names
    rw [canonicalMembers, ih hrest fun m hm => values m (List.mem_cons_of_mem _ hm),
      values m List.mem_cons_self]
    exact place_of_forall_lt hfirst

/-- A value in order is its own canonical form. -/
theorem canonical_of_inOrder {x : Json} (h : x.InOrder) : x.canonical = x := by
  induction h with
  | null => rfl
  | bool b => rfl
  | number n => rfl
  | string s => rfl
  | array _ ih =>
    rw [canonical, canonicalItems_eq_map, List.map_congr_left ih, List.map_id']
  | object names _ ih => rw [canonical, canonicalMembers_of_pairwise names ih]

mutual

/-- The canonical form of a value is in order. -/
theorem inOrder_canonical : ∀ x : Json, x.canonical.InOrder
  | .null => .null
  | .bool b => .bool b
  | .number n => .number n
  | .string s => .string s
  | .array items => .array (inOrder_canonicalItems items)
  | .object members =>
    .object (pairwise_canonicalMembers members) (inOrder_canonicalMembers members)

theorem inOrder_canonicalItems : ∀ xs : List Json, ∀ x ∈ canonicalItems xs, x.InOrder
  | [] => fun _ hx => nomatch hx
  | x :: xs => fun y hy => by
    rcases List.mem_cons.mp hy with rfl | hy
    · exact inOrder_canonical x
    · exact inOrder_canonicalItems xs y hy

theorem pairwise_canonicalMembers : ∀ ms : List (String × Json),
    (canonicalMembers ms).Pairwise (·.1 < ·.1)
  | [] => List.Pairwise.nil
  | (_, _) :: ms => pairwise_place (pairwise_canonicalMembers ms)

theorem inOrder_canonicalMembers : ∀ ms : List (String × Json), ∀ m ∈ canonicalMembers ms, m.2.InOrder
  | [] => fun _ hm => nomatch hm
  | (_, x) :: ms => fun m hm => by
    rcases mem_place hm with rfl | hm
    · exact inOrder_canonical x
    · exact inOrder_canonicalMembers ms m hm

end

/-- **The values in order are those in canonical form.** -/
theorem canonical_eq_self_iff {x : Json} : x.canonical = x ↔ x.InOrder := by
  constructor
  · intro h
    rw [← h]
    exact inOrder_canonical x
  · exact canonical_of_inOrder

/-! ## Members in another order -/

/-- If no name is repeated, canonical form changes the order of the members and brings each value into
    canonical form; it does nothing else. -/
theorem canonicalMembers_perm {ms : List (String × Json)} (h : (ms.map Prod.fst).Nodup) :
    (canonicalMembers ms).Perm (ms.map fun m => (m.1, m.2.canonical)) := by
  induction ms with
  | nil => exact List.Perm.refl _
  | cons m ms ih =>
    rw [List.map_cons, List.nodup_cons] at h
    have hrest := ih h.2
    have hnew : ∀ m' ∈ canonicalMembers ms, m'.1 ≠ m.1 := by
      intro m' hm' heq
      obtain ⟨old, hold, rfl⟩ := List.mem_map.mp (hrest.mem_iff.mp hm')
      exact h.1 (List.mem_map.mpr ⟨old, hold, heq⟩)
    exact (place_perm hnew).trans (hrest.cons _)

/-! ## Depth -/

theorem depth_le_itemsDepth {x : Json} {xs : List Json} (h : x ∈ xs) : x.depth ≤ itemsDepth xs := by
  induction xs with
  | nil => cases h
  | cons y ys ih =>
    rw [itemsDepth]
    rcases List.mem_cons.mp h with rfl | h
    · exact Nat.le_max_left _ _
    · exact Nat.le_trans (ih h) (Nat.le_max_right _ _)

theorem depth_le_membersDepth {m : String × Json} {ms : List (String × Json)} (h : m ∈ ms) :
    m.2.depth ≤ membersDepth ms := by
  induction ms with
  | nil => cases h
  | cons first rest ih =>
    rw [membersDepth]
    rcases List.mem_cons.mp h with rfl | h
    · exact Nat.le_max_left _ _
    · exact Nat.le_trans (ih h) (Nat.le_max_right _ _)

end PinTypes.Json
