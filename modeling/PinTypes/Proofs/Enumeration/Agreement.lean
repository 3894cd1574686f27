import PinTypes.Proofs.Enumeration.Orders
import PinTypes.Proofs.Enumeration.Selection

/-!
# `PinTypes.Proofs.Enumeration.Agreement` — known ahead of time or made at run time

One list of scalars can become an enumerated type in two ways: it is catalogued in advance, or a mint makes
a type when the list arrives with a schema. The two types search for a key differently. A catalogued type
looks for the very key and turns to small letters only where it fails; a minted type compares small forms
at once. Where no two keys of the list have one small form, a member with the very key is the only one
with its small form, and the two searches end at the same place (`findIdx?_exact_or_folded`).

Both searches see keys and nothing else. So whatever a mint gives for the list resolves as the catalogued
type does, even a type that an earlier list of the same keys had made.

## Contents
- **Two searches.** `findIdx?_exact_or_folded`, `EnumType.ordinalForKey_agrees`.
- **One selection.** `EnumType.select_congr`.
- **Main statement.** `catalogued_agrees_with_minted`.
-/

namespace PinTypes

open PinTypes.Text (lowered)

/-! ## Two searches -/

/-- Looking for the very key first makes no difference where small forms are pairwise different. -/
theorem findIdx?_exact_or_folded {keys : List String} (hkeys : (keys.map lowered).Nodup)
    (key : String) :
    (keys.findIdx? (· == key)).or (keys.findIdx? (lowered · == lowered key)) =
      keys.findIdx? (lowered · == lowered key) := by
  cases hexact : keys.findIdx? (· == key) with
  | none => rw [Option.none_or]
  | some i =>
    obtain ⟨hi, hfound, -⟩ := List.findIdx?_eq_some_iff_getElem.mp hexact
    have hkey : keys[i] = key := by simpa using hfound
    have hfolded : keys.findIdx? (lowered · == lowered key) = some i := by
      rw [List.findIdx?_eq_some_iff_getElem]
      refine ⟨hi, by simp [hkey], ?_⟩
      intro j hj hmatch
      -- an earlier key with the same small form would be the one found
      have hsame : (keys.map lowered)[j]? = (keys.map lowered)[i]? := by
        have hlow : lowered keys[j] = lowered keys[i] := by simpa [hkey] using hmatch
        rw [List.getElem?_map, List.getElem?_map, List.getElem?_eq_getElem hi,
          List.getElem?_eq_getElem (Nat.lt_trans hj hi)]
        exact congrArg some hlow
      have hji : j = i := (List.getElem?_inj (by simpa using Nat.lt_trans hj hi) hkeys).mp hsame
      exact absurd hji (Nat.ne_of_lt hj)
    rw [hfolded, Option.some_or]

theorem MintedEnum.ordinalForKey_keys (t : MintedEnum) (key : String) :
    t.ordinalForKey key = (t.variants.map Scalar.key).findIdx? (lowered · == lowered key) := by
  rw [t.ordinalForKey_eq, List.findIdx?_map]
  rfl

theorem CataloguedEnum.ordinalForKey_keys (t : CataloguedEnum) (key : String) :
    t.ordinalForKey key = ((t.variants.map Scalar.key).findIdx? (· == key)).or
      ((t.variants.map Scalar.key).findIdx? (lowered · == lowered key)) := by
  rw [t.ordinalForKey_eq, List.findIdx?_map, List.findIdx?_map]
  rfl

namespace EnumType

/-- Two types of the same keys find every key at the same place, if the small forms are pairwise
    different. -/
theorem ordinalForKey_agrees {c : Stamped CataloguedEnum} {t : Stamped MintedEnum}
    (hsame : t.type.variants.map Scalar.key = c.type.variants.map Scalar.key)
    (hkeys : ((c.type.variants.map Scalar.key).map lowered).Nodup) (key : String) :
    (minted t).ordinalForKey key = (catalogued c).ordinalForKey key := by
  rw [ordinalForKey, ordinalForKey, t.type.ordinalForKey_keys, c.type.ordinalForKey_keys, hsame,
    findIdx?_exact_or_folded hkeys]

/-! ## One selection -/

/-- What a type selects is told by the places of keys and the number of its members. -/
theorem select_congr {t u : EnumType} (hkey : ∀ key, t.ordinalForKey key = u.ordinalForKey key)
    (hsize : t.size = u.size) {α : Type} [ToScalar α] (raw : α) : t.select raw = u.select raw := by
  simp only [select, hkey, hsize]

theorem select_agrees {c : Stamped CataloguedEnum} {t : Stamped MintedEnum}
    (hsame : t.type.variants.map Scalar.key = c.type.variants.map Scalar.key)
    (hkeys : ((c.type.variants.map Scalar.key).map lowered).Nodup) {α : Type} [ToScalar α] (raw : α) :
    (minted t).select raw = (catalogued c).select raw := by
  have hsize : (minted t).size = (catalogued c).size := by
    have hlen := congrArg List.length hsame
    simpa [size, variants] using hlen
  exact select_congr (ordinalForKey_agrees hsame hkeys) hsize raw

end EnumType

/-! ## Main statement -/

/-- An order without strictness for the scalars of a list. -/
theorem Mint.obtain_scalars (m : Mint) (declared : Option String) {vs : List Scalar} (hne : vs ≠ [])
    (fallback : String) :
    m.obtain declared vs fallback =
      (some (m.obtainNamed (m.typeName declared fallback) vs).1,
        (m.obtainNamed (m.typeName declared fallback) vs).2) := by
  have hmap : vs.map toScalar = vs := List.map_id vs
  simp [obtain, hne, hmap]

/-- **Catalogued and minted types of one list agree.** Take any list of scalars whose keys have pairwise
    different small forms, catalogued under some name, and any mint, whatever was ordered from it before.
    The mint gives a type for the list, and that type selects the same position by the same rule as the
    catalogued one, whatever is sent to the two. If no type of that name and those keys was there, the type
    is made from the list itself; and a type made from the list has the variants and the labels of the
    catalogued one. -/
theorem catalogued_agrees_with_minted {vs : List Scalar} (hne : vs ≠ [])
    (hkeys : (vs.map fun v => lowered v.key).Nodup) (name : String) (stamp : Stamp) (source : Nat)
    (defaultName : String) (orders : List Mint.Order) (declared : Option String) (fallback : String) :
    let known := EnumType.catalogued ⟨stamp, .ofValues name vs⟩
    let m := (Mint.named source defaultName).after orders
    ∃ t, (m.obtain declared vs fallback).1 = some t ∧
      (∀ {α : Type} [ToScalar α] (raw : α), (EnumType.minted t).select raw = known.select raw) ∧
      (¬ m.Knows (m.typeName declared fallback, vs.map Scalar.key) → t.type.variants = vs) ∧
      (t.type.variants = vs →
        (EnumType.minted t).variants = known.variants ∧ (EnumType.minted t).labels = known.labels) := by
  intro known m
  obtain ⟨hsound, -⟩ := Mint.after_sound (Mint.named_sound source defaultName) orders
  have hname := hsound.typeName_plain declared fallback
  obtain ⟨-, -, -, hsig⟩ := Mint.obtainNamed_spec hsound hname hne
  refine ⟨(m.obtainNamed (m.typeName declared fallback) vs).1, ?_, ?_, ?_, ?_⟩
  · rw [m.obtain_scalars declared hne]
  · intro α _ raw
    have hsame : (m.obtainNamed (m.typeName declared fallback) vs).1.type.variants.map Scalar.key =
        vs.map Scalar.key := congrArg Prod.snd hsig
    refine EnumType.select_agrees ?_ ?_ raw
    · rw [CataloguedEnum.variants_ofValues, hsame]
    · rw [CataloguedEnum.variants_ofValues, List.map_map]
      exact hkeys
  · intro hnew
    rw [(hsound.obtainNamed_of_not_knows hname hne hnew).2]
    rfl
  · intro hvs
    have hvariants : known.variants = vs := CataloguedEnum.variants_ofValues name vs
    have hlabels : known.labels = Identifier.labelsFor vs := CataloguedEnum.labels_ofValues name vs
    rw [hvariants, hlabels]
    refine ⟨hvs, ?_⟩
    rw [EnumType.labels, MintedEnum.labels, hvs]

/-- Two words, one of them padded, and a number. -/
def qualityValues : List Scalar := [.string "low", .string " High ", .int 2]

/-- The padded word in other letters is the second member, whether the list was catalogued or is new to the
    mint. -/
theorem catalogued_agrees_with_minted_quality :
    let known := EnumType.catalogued ⟨⟨1, 0⟩, .ofValues "Quality" qualityValues⟩
    let m := (Mint.named 0 "DynamicEnum").after []
    qualityValues ≠ [] ∧ (qualityValues.map fun v => lowered v.key).Nodup ∧
      ∃ t, (m.obtain (some "Quality") qualityValues "Enum").1 = some t ∧
        (EnumType.minted t).select "HIGH" = ⟨1, .key⟩ ∧
        (EnumType.minted t).variants = known.variants ∧ (EnumType.minted t).labels = known.labels := by
  intro known m
  have hne : qualityValues ≠ [] := by decide
  have hkeys : (qualityValues.map fun v => lowered v.key).Nodup := by decide
  obtain ⟨t, ht, hselect, hmade, hviews⟩ :=
    catalogued_agrees_with_minted hne hkeys "Quality" ⟨1, 0⟩ 0 "DynamicEnum" [] (some "Quality") "Enum"
  have hnew : ¬ m.Knows (m.typeName (some "Quality") "Enum", qualityValues.map Scalar.key) := by
    rintro ⟨u, hu, -⟩
    exact Mint.not_keeps_named hu
  have hknown : known.select "HIGH" = ⟨1, .key⟩ := by decide
  exact ⟨hne, hkeys, t, ht, (hselect "HIGH").trans hknown, hviews (hmade hnew)⟩

end PinTypes
