import PinTypes.Proofs.Pin.Defaults
import PinTypes.Proofs.Typer.Defaults

/-!
# `PinTypes.Proofs.Pin.Choices` — what a pin offers

The choices of a pin for an enumerated type are put together from lists that are kept side by side: the
scalars that are sent, the labels, and the positions. A list that was too short would cut the others
off. None is: there is a label for every scalar (`Pin.length_choiceLabels`), so there is a choice for every
member, and all of its parts are about that member (`Pin.getElem?_choicesOf`).

A choice sends what the value of the pin at its position is sent as. Received again, that selects the first
member with the same key. And because a default has a position of its type, some choice is the default's.

## Contents
- **Making a type.** `EnumType.MadeFrom`, how a type comes from a list of scalars.
- **One choice for each member.** `Pin.length_choicesOf`, `Pin.getElem?_choicesOf`.
- **Choices and defaults.** `EnumType.ordinalOf_toJson`, `Pin.exists_choice_of_fits`.
- **Main statement.** `Pin.choices_stand_for_members`.
-/

namespace PinTypes

/-! ## Making a type -/

/-- The ways to make a type, each with the scalars that it is made from. -/
inductive EnumType.MadeFrom : EnumType → List Scalar → Prop where
  | members (stamp : Stamp) (name group : String) (members : List Member) :
      MadeFrom (.catalogued ⟨stamp, (CataloguedEnum.ofMembers name members).inGroup group⟩)
        (members.map (·.value))
  | values (stamp : Stamp) (name group : String) (vs : List Scalar) :
      MadeFrom (.catalogued ⟨stamp, (CataloguedEnum.ofValues name vs).inGroup group⟩) vs
  | minted (stamp : Stamp) (name : String) (vs : List Scalar) :
      MadeFrom (.minted ⟨stamp, .make name vs⟩) vs

/-- A type has the very scalars that it was made from. -/
theorem EnumType.MadeFrom.variants_eq {t : EnumType} {vs : List Scalar} (h : t.MadeFrom vs) :
    t.variants = vs := by
  cases h with
  | members stamp name group members => rfl
  | values stamp name group => exact CataloguedEnum.variants_ofValues name vs
  | minted stamp name => rfl

namespace Pin

/-! ## One choice for each member -/

theorem length_choiceLabels (t : EnumType) : (choiceLabels t).length = t.size := by
  cases t with
  | catalogued u =>
    simp [choiceLabels, EnumType.size, EnumType.variants, CataloguedEnum.readableLabels,
      CataloguedEnum.labels, CataloguedEnum.variants]
  | minted u => simp [choiceLabels, EnumType.size, EnumType.variants, MintedEnum.labels]

theorem length_choicesOf (t : EnumType) : (choicesOf t).length = t.size := by
  rw [choicesOf, List.length_map, List.length_zipIdx, List.length_zip, length_choiceLabels]
  exact Nat.min_self t.size

/-- The choice at the position of a member sends the scalar of the member and has its label. -/
theorem getElem?_choicesOf {t : EnumType} {i : Nat} {s : Scalar} (hi : t.valueAt? i = some s) :
    ∃ label, (choiceLabels t)[i]? = some label ∧
      (choicesOf t)[i]? = some ⟨s.toJson, label, i⟩ := by
  have hlt : i < t.size := (List.getElem?_eq_some_iff.mp hi).1
  have hlabel : i < (choiceLabels t).length := by
    rw [length_choiceLabels]
    exact hlt
  have hsome : (choiceLabels t)[i]? = some (choiceLabels t)[i] := List.getElem?_eq_getElem hlabel
  have hpair : (t.variants.zip (choiceLabels t))[i]? = some (s, (choiceLabels t)[i]) :=
    List.getElem?_zip_eq_some.mpr ⟨hi, hsome⟩
  refine ⟨(choiceLabels t)[i], hsome, ?_⟩
  rw [choicesOf, List.getElem?_map, List.getElem?_zipIdx, hpair]
  simp

/-- A choice stands at its own position. -/
theorem getElem?_of_mem_choicesOf {t : EnumType} {c : Choice} (hc : c ∈ choicesOf t) :
    (choicesOf t)[c.ordinal]? = some c := by
  obtain ⟨i, hi⟩ := List.mem_iff_getElem?.mp hc
  have hlt : i < t.size := by
    rw [← length_choicesOf]
    exact (List.getElem?_eq_some_iff.mp hi).1
  obtain ⟨label, -, hlabel⟩ := getElem?_choicesOf (t := t) (List.getElem?_eq_getElem hlt)
  have hordinal : c.ordinal = i := by
    rw [hi] at hlabel
    rw [Option.some.inj hlabel]
  rw [hordinal, hi]

theorem choices_eq {p : Pin} {t : EnumType} (hp : p.kind = .enumeration t) :
    p.choices = choicesOf t := by
  simp only [choices, hp, PinKind.enumType?]

end Pin

/-! ## Choices and defaults -/

theorem PinValue.coerce_enumeration (t : EnumType) (x : Json) :
    coerce (.enumeration t) x = .ok (.enumeration t (t.ordinalOf x)) := by
  simp only [coerce, coerce?]

/-- What is sent for a member selects the first member with the same key. -/
theorem EnumType.ordinalOf_toJson {t : EnumType} {s : Scalar} (hs : s ∈ t.variants)
    (hreceived : s.Received) :
    IsLeast (t.positions (t.matchKey · = t.matchKey s)) (t.ordinalOf s.toJson) := by
  obtain ⟨j, hleast, hselect⟩ := EnumType.select_variant hs
  have hordinal : t.ordinalOf s.toJson = j := by
    rw [EnumType.ordinalOf, EnumType.select_toJson hreceived, hselect]
  rw [hordinal]
  exact hleast

namespace Pin

/-- A default that has a position of the type is what the choice at that position sends. -/
theorem exists_choice_of_fits {p : Pin} {t : EnumType} (hp : p.kind = .enumeration t)
    (hsize : 0 < t.size) (hfits : PinValue.Fits p.kind p.default) :
    ∃ c ∈ p.choices, p.default.ordinal? = some c.ordinal ∧ p.default.toJson = c.value ∧
      ∀ d ∈ p.choices, d.ordinal = c.ordinal → d = c := by
  rw [hp] at hfits
  obtain ⟨i, hdefault, hinside⟩ := hfits.exists_ordinal
  have hlt : i < t.size := by
    rcases hinside with hlt | ⟨hzero, -⟩
    · exact hlt
    · omega
  have hi : t.valueAt? i = some t.variants[i] := List.getElem?_eq_getElem hlt
  obtain ⟨label, -, hc⟩ := getElem?_choicesOf hi
  rw [choices_eq hp, hdefault]
  refine ⟨_, List.mem_of_getElem? hc, rfl, PinValue.toJson_enumeration hi, ?_⟩
  · intro d hd hsame
    have hplace := getElem?_of_mem_choicesOf hd
    rw [hsame, hc] at hplace
    exact (Option.some.inj hplace).symm

/-! ## Main statement -/

/-- **The choices of a pin stand for the members of its type.** However the type was made, a pin of its kind
    offers one choice for each scalar that it was made from, in order. The choice at a position has that
    position and the label for it, and sends what the value of the type at that position is sent as. If every
    scalar can be received, what the choice sends is coerced to the first position with the same key. And of
    a described pin whose type has members, the default that is sent is the value of the one choice at the
    position of the default. -/
theorem choices_stand_for_members :
    (∀ (t : EnumType) (vs : List Scalar), t.MadeFrom vs → ∀ p : Pin, p.kind = .enumeration t →
      p.choices.length = vs.length ∧
      ∀ (i : Nat) (s : Scalar), vs[i]? = some s →
        ∃ c, p.choices[i]? = some c ∧ c.ordinal = i ∧ (choiceLabels t)[i]? = some c.label ∧
          c.value = (PinValue.enumeration t i).toJson ∧
          ((∀ v ∈ vs, v.Received) →
            ∃ j, PinValue.coerce p.kind c.value = .ok (.enumeration t j) ∧
              IsLeast (t.positions (t.matchKey · = t.matchKey s)) j)) ∧
    (∀ (typer : Typer) (name : String) (s : SchemaType) (default : Option Json) (m : Mint)
      (t : EnumType),
      let p := (typer.describe name s default m).1
      p.kind = .enumeration t → 0 < t.size →
        ∃ c ∈ p.snapshot.choices, p.default.ordinal? = some c.ordinal ∧
          p.snapshot.default = c.value ∧
          ∀ d ∈ p.snapshot.choices, d.ordinal = c.ordinal → d = c) := by
  refine ⟨?_, ?_⟩
  · intro t vs hmade p hp
    obtain rfl := hmade.variants_eq
    refine ⟨?_, ?_⟩
    · rw [choices_eq hp, length_choicesOf]
      rfl
    · intro i s hi
      obtain ⟨label, hlabel, hc⟩ := getElem?_choicesOf (t := t) hi
      have hsent : (PinValue.enumeration t i).toJson = s.toJson := PinValue.toJson_enumeration hi
      rw [choices_eq hp, hp]
      refine ⟨_, hc, rfl, hlabel, hsent.symm, ?_⟩
      intro hreceived
      have hs : s ∈ t.variants := List.mem_of_getElem? hi
      have hback := PinValue.coerce_enumeration t s.toJson
      have hleast := EnumType.ordinalOf_toJson hs (hreceived s hs)
      exact ⟨t.ordinalOf s.toJson, hback, hleast⟩
  · intro typer name s default m t p hp hsize
    have hfits : PinValue.Fits p.kind p.default := typer.fits_describe name s default m
    clear_value p
    exact exists_choice_of_fits hp hsize hfits

/-- The second of three choices is for the word, and comes back as the word. -/
theorem choices_stand_for_members_size :
    let t := PinValue.sizeType
    let p := plain "size" (.enumeration t) (.enumeration t 0)
    let vs := [Scalar.int 2, .string "Big", .null]
    t.MadeFrom vs ∧ (∀ v ∈ vs, v.Received) ∧ p.choices.length = 3 ∧
      ∃ c, p.choices[1]? = some c ∧ c.value = (PinValue.enumeration t 1).toJson ∧
        ∃ j, PinValue.coerce p.kind c.value = .ok (.enumeration t j) ∧
          IsLeast (t.positions (t.matchKey · = t.matchKey (.string "Big"))) j := by
  intro t p vs
  have hmade : t.MadeFrom vs := .minted ⟨0, 0⟩ "Size" vs
  have hreceived : ∀ v ∈ vs, v.Received := PinValue.sizeType_unambiguous.received
  obtain ⟨hlength, hchoices⟩ := choices_stand_for_members.1 t vs hmade p rfl
  obtain ⟨c, hc, -, -, hvalue, hback⟩ := hchoices 1 (.string "Big") rfl
  exact ⟨hmade, hreceived, hlength, c, hc, hvalue, hback hreceived⟩

end Pin

end PinTypes
