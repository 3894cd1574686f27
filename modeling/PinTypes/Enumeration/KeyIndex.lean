import Std.Data.TreeMap.Lemmas

/-!
# `PinTypes.Enumeration.KeyIndex` — finding a position by its key

An enumerated type finds the member with a given key through an index. Several members may share a key;
the index then holds the first of them.

## Contents
- **The index.** `KeyIndex`, `KeyIndex.ofKeys`, built key by key through `KeyIndex.add`.
- **Its meaning.** `KeyIndex.getElem?_ofKeys`: looking a key up gives the first position that holds it.
-/

namespace PinTypes

/-- Positions by key. -/
abbrev KeyIndex := Std.TreeMap String Nat

namespace KeyIndex

/-- Adds the keys of the positions from `position` on; a key that is there keeps its position. -/
def add (index : KeyIndex) (position : Nat) : List String → KeyIndex
  | [] => index
  | k :: ks => add (index.insertIfNew k position) (position + 1) ks

/-- The index of a list of keys. -/
def ofKeys (keys : List String) : KeyIndex := add ∅ 0 keys

/-- A key that is in the index keeps its position; any other is found where it first stands. -/
theorem getElem?_add (index : KeyIndex) (position : Nat) (keys : List String) (k : String) :
    (index.add position keys)[k]? =
      index[k]?.or ((keys.findIdx? (· == k)).map (position + ·)) := by
  induction keys generalizing index position with
  | nil => simp [add]
  | cons a ks ih =>
    rw [add, ih, Std.TreeMap.getElem?_insertIfNew, List.findIdx?_cons]
    by_cases hk : a = k
    · subst hk
      by_cases ha : a ∈ index
      · simp [ha]
      · simp [ha]
    · have hc : compare a k ≠ .eq := fun h => hk (Std.LawfulEqOrd.eq_of_compare h)
      simp only [hc, false_and, if_false, beq_eq_false_iff_ne.mpr hk, Bool.false_eq_true]
      congr 1
      cases ks.findIdx? (· == k) <;> simp [Nat.add_assoc, Nat.add_comm 1]

/-- **The first position wins.** Looking a key up gives the first position that holds it. -/
theorem getElem?_ofKeys (keys : List String) (k : String) :
    (ofKeys keys)[k]? = keys.findIdx? (· == k) := by
  rw [ofKeys, getElem?_add]
  cases keys.findIdx? (· == k) <;> simp

end KeyIndex

end PinTypes
