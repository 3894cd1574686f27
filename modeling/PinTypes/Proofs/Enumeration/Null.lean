import PinTypes.Proofs.Enumeration.Selection
import PinTypes.Proofs.Number.Layout
import PinTypes.Proofs.Text.Lowercase

/-!
# `PinTypes.Proofs.Enumeration.Null` — when null is taken for a text

The key of null begins with a NUL, and a NUL is no blank: a text may begin with one, and trimming leaves it
there. So a string can have the key of null, and in a search without letter case a string can have it in
capitals. Nothing else can: no number, no truth value and no other string has a NUL in front of its text, and
the letters of the key come from ASCII letters only (`lowered_key_eq_nullKey_iff`).

A type in which no member has that key is safe. A type with such a member is not, and it does not help that
the member is null itself: the string of just the key and null are then resolved to one member, which is right
for one of them at most (`EnumType.tellsNull_iff`).

## Contents
- **Keys.** `Scalar.ReadsAsNull`, `key_eq_nullKey_iff`, `lowered_key_eq_nullKey_iff`.
- **Selecting.** `EnumType.lowered_key_of_select`, `EnumType.exists_select_of_key`.
- **Main statement.** `EnumType.TellsNull`, `EnumType.tellsNull_iff`; `EnumType.not_tellsNull_wordOrNull`, where
  a string is taken for null.
-/

namespace PinTypes

open PinTypes.Text (lowered loweredAscii trimmed)

namespace Scalar

/-! ## Keys -/

/-- A string whose text between blanks is the key of null, in any ASCII letter case. -/
def ReadsAsNull : Scalar → Prop
  | string text => loweredAscii (trimmed text) = nullKey
  | _ => False

instance (s : Scalar) : Decidable s.ReadsAsNull := by
  unfold ReadsAsNull
  split <;> infer_instance

/-- Only strings have a NUL in their text. -/
theorem exists_string_of_nul {s : Scalar} (h : '\x00' ∈ s.text.toList) : ∃ text, s = string text := by
  cases s with
  | null => exact absurd h (by decide)
  | bool b =>
    cases b with
    | false => exact absurd h (by decide)
    | true => exact absurd h (by decide)
  | int i =>
    rw [text, String.toList_ofList] at h
    rcases Number.mem_showInt h with hdigit | hsign
    · exact absurd hdigit (by decide)
    · exact absurd hsign (by decide)
  | float x =>
    rw [text, String.toList_ofList] at h
    rcases Number.mem_plainText h with hdigit | hsign
    · exact absurd hdigit (by decide)
    · exact absurd hsign (by decide)
  | string text => exact ⟨text, rfl⟩

/-- A NUL in small letters was a NUL before. -/
theorem nul_mem_of_loweredAscii {t : String} (h : '\x00' ∈ (loweredAscii t).toList) : '\x00' ∈ t.toList := by
  rw [loweredAscii, String.toList_ofList] at h
  obtain ⟨c, hc, hsmall⟩ := List.mem_map.mp h
  by_cases hcapital : 65 ≤ c.toNat ∧ c.toNat ≤ 90
  · have hcode := Text.toNat_smallAscii hcapital
    rw [hsmall] at hcode
    have hzero : '\x00'.toNat = 0 := rfl
    omega
  · rw [Text.smallAscii_of_not hcapital] at hsmall
    rwa [hsmall] at hc

theorem lowered_nullKey : lowered nullKey = nullKey := by decide

theorem key_of_ne_null {s : Scalar} (h : s ≠ null) : s.key = trimmed s.text := by
  cases s with
  | null => exact absurd rfl h
  | _ => rfl

/-- A scalar with a NUL in its key, other than null, is a string. -/
theorem exists_string_of_nul_key {s : Scalar} (hs : s ≠ null) (h : '\x00' ∈ s.key.toList) :
    ∃ text, s = string text := by
  rw [key_of_ne_null hs, Text.toList_trimmed] at h
  exact exists_string_of_nul (Text.mem_of_mem_trim h)

/-- **Which scalars have the key of null.** Null, and strings with just that text between blanks. -/
theorem key_eq_nullKey_iff {s : Scalar} :
    s.key = nullKey ↔ s = null ∨ ∃ text, s = string text ∧ trimmed text = nullKey := by
  constructor
  · intro h
    by_cases hs : s = null
    · exact Or.inl hs
    · obtain ⟨text, rfl⟩ := exists_string_of_nul_key hs (by rw [h]; decide)
      exact Or.inr ⟨text, rfl, h⟩
  · rintro (rfl | ⟨text, rfl, h⟩)
    · rfl
    · exact h

/-- **Which scalars have the key of null in small letters.** Null, and strings that read as null. -/
theorem lowered_key_eq_nullKey_iff {s : Scalar} :
    lowered s.key = nullKey ↔ s = null ∨ s.ReadsAsNull := by
  have hall : nullKey.toList.all (decide <| Text.IsOnlyAscii ·) = true := by decide
  have hascii : ∀ d ∈ nullKey.toList, Text.IsOnlyAscii d :=
    fun d hd => of_decide_eq_true (List.all_eq_true.mp hall d hd)
  rw [Text.lowered_eq_iff hascii]
  constructor
  · intro h
    by_cases hs : s = null
    · exact Or.inl hs
    · have hnul : '\x00' ∈ (loweredAscii s.key).toList := by rw [h]; decide
      obtain ⟨text, rfl⟩ := exists_string_of_nul_key hs (nul_mem_of_loweredAscii hnul)
      exact Or.inr h
  · rintro (rfl | h)
    · decide
    · cases s with
      | string text => exact h
      | _ => exact absurd h id

end Scalar

namespace EnumType

open Scalar (nullKey ReadsAsNull)

/-! ## Selecting -/

/-- The member that a value selects by its key has the same key, letter case left out of account. -/
theorem lowered_key_of_select {α : Type} [ToScalar α] {t : EnumType} {raw : α} {i : Nat} {v : Scalar}
    (h : t.select raw = ⟨i, .key⟩) (hv : t.valueAt? i = some v) :
    lowered v.key = lowered (toScalar raw).key := by
  have hresolves := resolves_select t raw
  rw [h] at hresolves
  cases hresolves with
  | exact _ least =>
    obtain ⟨w, hw, hkey⟩ := least.1
    obtain rfl : v = w := Option.some.inj (hv.symm.trans hw)
    exact congrArg lowered hkey
  | folded _ least =>
    obtain ⟨w, hw, hkey⟩ := least.1
    obtain rfl : v = w := Option.some.inj (hv.symm.trans hw)
    exact hkey

/-- A value whose key some member has, letter case left out of account, selects a member by it; and so does any
    other value with the key, the same member. -/
theorem exists_select_of_key {t : EnumType} {v : Scalar} (hv : v ∈ t.variants) {key : String}
    (hkey : lowered v.key = lowered key) :
    ∃ i w, t.valueAt? i = some w ∧
      ∀ {α : Type} [ToScalar α] (raw : α), (toScalar raw).key = key → t.select raw = ⟨i, .key⟩ := by
  have hmatched : t.ordinalForKey key ≠ none := by
    intro hnone
    exact ordinalForKey_eq_none_iff.mp hnone v hv hkey
  obtain ⟨i, hi⟩ := Option.ne_none_iff_exists'.mp hmatched
  obtain ⟨w, hw⟩ : ∃ w, t.valueAt? i = some w := by
    rcases ordinalForKey_eq_some_iff.mp hi with ⟨-, least⟩ | ⟨-, least⟩
    · exact ⟨_, least.1.choose_spec.1⟩
    · exact ⟨_, least.1.choose_spec.1⟩
  refine ⟨i, w, hw, fun raw hraw => select_of_key ?_⟩
  rw [hraw, hi]

/-! ## Main statement -/

/-- Null is told from everything else: where a member is selected by its key, it is null exactly if null was
    sent. -/
def TellsNull (t : EnumType) : Prop :=
  ∀ {α : Type} [ToScalar α] (raw : α) (i : Nat) (v : Scalar),
    t.select raw = ⟨i, .key⟩ → t.valueAt? i = some v → (v = .null ↔ toScalar raw = .null)

/-- A type with a member that has the key of null takes null for a text or a text for null. -/
theorem not_tellsNull_of_mem {t : EnumType} {v : Scalar} (hv : v ∈ t.variants)
    (hkey : lowered v.key = nullKey) : ¬ t.TellsNull := by
  intro htells
  obtain ⟨i, w, hw, hselect⟩ := exists_select_of_key hv (hkey.trans Scalar.lowered_nullKey.symm)
  -- null and the string of its key are resolved to one member
  have hnull : w = .null ↔ toScalar Scalar.null = .null := htells Scalar.null i w (hselect Scalar.null rfl) hw
  have htext : w = .null ↔ toScalar nullKey = .null :=
    htells nullKey i w (hselect nullKey (by decide)) hw
  have hne : toScalar nullKey ≠ .null := by decide
  exact hne (htext.mp (hnull.mpr rfl))

theorem eq_null_iff_of_select {α : Type} [ToScalar α] {t : EnumType} {raw : α} {i : Nat} {v : Scalar}
    (h : t.select raw = ⟨i, .key⟩) (hv : t.valueAt? i = some v)
    (hraw : ¬ (toScalar raw).ReadsAsNull) (hvariant : ¬ v.ReadsAsNull) :
    v = .null ↔ toScalar raw = .null := by
  have hkeys := lowered_key_of_select h hv
  constructor
  · intro hnull
    have hkey : lowered (toScalar raw).key = nullKey := by
      rw [← hkeys]
      exact Scalar.lowered_key_eq_nullKey_iff.mpr (Or.inl hnull)
    exact (Scalar.lowered_key_eq_nullKey_iff.mp hkey).resolve_right hraw
  · intro hnull
    have hkey : lowered v.key = nullKey := by
      rw [hkeys]
      exact Scalar.lowered_key_eq_nullKey_iff.mpr (Or.inl hnull)
    exact (Scalar.lowered_key_eq_nullKey_iff.mp hkey).resolve_right hvariant

/-- **When null is told from text.** A type tells null from everything else exactly if no member has the key of
    null, letter case left out of account: no member is null, and none reads as null. In any other type only a
    string that reads as null can be mistaken, whether it is sent or is the scalar of a member. Such strings
    are the only scalars beside null that have its key. -/
theorem tellsNull_iff (t : EnumType) :
    (t.TellsNull ↔ ∀ v ∈ t.variants, v ≠ .null ∧ ¬ v.ReadsAsNull) ∧
    (∀ {α : Type} [ToScalar α] (raw : α) (i : Nat) (v : Scalar),
      t.select raw = ⟨i, .key⟩ → t.valueAt? i = some v →
      ¬ (toScalar raw).ReadsAsNull → ¬ v.ReadsAsNull → (v = .null ↔ toScalar raw = .null)) ∧
    (∀ s : Scalar,
      (s.key = nullKey ↔ s = .null ∨ ∃ text, s = .string text ∧ trimmed text = nullKey) ∧
      (lowered s.key = lowered nullKey ↔ s = .null ∨ s.ReadsAsNull)) := by
  refine ⟨⟨?_, ?_⟩, fun _ _ _ => eq_null_iff_of_select, fun s => ⟨Scalar.key_eq_nullKey_iff, ?_⟩⟩
  · intro htells v hv
    have hkey : lowered v.key ≠ nullKey := fun h => not_tellsNull_of_mem hv h htells
    rw [Ne, Scalar.lowered_key_eq_nullKey_iff, not_or] at hkey
    exact hkey
  · intro hfree α _ raw i v hselect hv
    have hmem : v ∈ t.variants := List.mem_of_getElem? hv
    refine ⟨fun hnull => absurd hnull (hfree v hmem).1, fun hnull => ?_⟩
    -- null was sent, so the member that was found has its key
    have hkey : lowered v.key = nullKey := by
      rw [lowered_key_of_select hselect hv, hnull]
      exact Scalar.lowered_nullKey
    rcases Scalar.lowered_key_eq_nullKey_iff.mp hkey with hv | hv
    · exact absurd hv (hfree v hmem).1
    · exact absurd hv (hfree v hmem).2
  · rw [Scalar.lowered_nullKey, Scalar.lowered_key_eq_nullKey_iff]

/-- A word, and null. -/
def wordOrNull : EnumType := .minted ⟨⟨0, 0⟩, .make "Mode" [.string "auto", .null]⟩

/-- A padded word in capitals and null itself each select their member. -/
theorem tellsNull_iff_wordOrNull :
    wordOrNull.select " AUTO " = ⟨0, .key⟩ ∧ wordOrNull.valueAt? 0 = some (.string "auto") ∧
    (Scalar.string "auto" = .null ↔ toScalar " AUTO " = Scalar.null) ∧
    (Scalar.null = .null ↔ toScalar (none : Option String) = Scalar.null) := by
  have hword : wordOrNull.select " AUTO " = ⟨0, .key⟩ := by decide
  have hnull : wordOrNull.select (none : Option String) = ⟨1, .key⟩ := by decide
  refine ⟨hword, rfl, ?_, ?_⟩
  · exact (tellsNull_iff wordOrNull).2.1 " AUTO " 0 _ hword rfl (by decide) (by decide)
  · exact (tellsNull_iff wordOrNull).2.1 (none : Option String) 1 _ hnull rfl (by decide) (by decide)

/-- The string of the key of null selects null by its key. -/
theorem not_tellsNull_wordOrNull :
    wordOrNull.select "\x00null" = ⟨1, .key⟩ ∧ wordOrNull.valueAt? 1 = some .null ∧
      toScalar "\x00null" ≠ Scalar.null ∧ ¬ wordOrNull.TellsNull := by
  have hselect : wordOrNull.select "\x00null" = ⟨1, .key⟩ := by decide
  have htext : toScalar "\x00null" ≠ Scalar.null := by decide
  refine ⟨hselect, rfl, htext, fun htells => htext ?_⟩
  exact (htells "\x00null" 1 .null hselect rfl).mp rfl

end EnumType

end PinTypes
