import PinTypes.Proofs.Pin.Defaults
import PinTypes.Proofs.Typer.Sessions

/-!
# `PinTypes.Proofs.Typer.Defaults` — what a typed pin starts with

The kind of a pin is decided from the schema type, and its default is coerced from whatever JSON the schema
gives, by two pieces of code that know nothing of each other. The default is a value of the kind all the
same, as every default of a kind is (`PinValue.fits_initial`).

For an enumerated kind there is more to say. A type without members has a position all the same, for which
nothing can be sent, so it matters where types come from: a catalog may hold a type without members, but a
mint keeps none, after whatever session (`Typer.catalogued_or_inhabited`).

## Contents
- **Defaults of a kind.** `Typer.default_typeFor`, `Typer.fits_typeFor`, `Typer.fits_describe`.
- **Types of a kind.** `Typer.catalogued_or_inhabited`.
- **Main statement.** `Typer.default_inhabits_kind`.
-/

namespace PinTypes

namespace Typer

/-! ## Defaults of a kind -/

theorem kind_typeFor (t : Typer) (pin : Option String) (s : SchemaType) (value : Option Json) (m : Mint) :
    (t.typeFor pin s value m).1.kind = (t.kindFor pin s m).1 := by
  rw [typeFor_eq]

/-- The default of a typed pin is the initial value of its kind. -/
theorem default_typeFor (t : Typer) (pin : Option String) (s : SchemaType) (value : Option Json) (m : Mint) :
    (t.typeFor pin s value m).1.default = .initial (t.typeFor pin s value m).1.kind value := by
  rw [typeFor_eq]

theorem fits_typeFor (t : Typer) (pin : Option String) (s : SchemaType) (value : Option Json)
    (m : Mint) :
    PinValue.Fits (t.typeFor pin s value m).1.kind (t.typeFor pin s value m).1.default := by
  rw [default_typeFor]
  exact PinValue.fits_initial _ value

theorem fits_describe (t : Typer) (name : String) (s : SchemaType) (value : Option Json) (m : Mint) :
    PinValue.Fits (t.describe name s value m).1.kind (t.describe name s value m).1.default := by
  rw [describe_eq]
  generalize t.kindFor (some name) s m = decided
  exact PinValue.fits_initial decided.1 value

/-! ## Types of a kind -/

/-- A type that a typer decides on is a catalogued one, or has members. -/
theorem catalogued_or_inhabited {t : Typer} {s : SchemaType} {m : Mint} (h : m.Sound)
    {pin : Option String} {e : EnumType} (he : (t.kindFor pin s m).1 = .enumeration e) :
    (∃ known, e = .catalogued known) ∨ 0 < e.size := by
  cases e with
  | catalogued known => exact Or.inl ⟨known, rfl⟩
  | minted u =>
    have hkept : (t.kindFor pin s m).2.Keeps u := keeps_of_kindFor h he
    have hne : u.type.variants ≠ [] := (kindFor_sound h t pin s).1.inhabited hkept
    exact Or.inr (List.length_pos_iff.mpr hne)

/-! ## Main statement -/

/-- **A default is a value of the kind it goes with.** After any session of the mint, whatever schema type
    and JSON a typer is given, the default it comes to fits the kind it decides on. If that is an enumerated
    type, the default holds the very type, at a position where a member stands whose scalar is what is sent,
    unless the type is a catalogued one without members. A media default is nothing, or a reference of that
    family with a trimmed address that is not empty. A default that is a double is finite and sent as a
    number. -/
theorem default_inhabits_kind (source : Nat) (defaultName : String) (session : List Mint.Use) (t : Typer)
    (pin : Option String) (s : SchemaType) (value : Option Json) :
    let m := (Mint.named source defaultName).afterUses session
    let typed := (t.typeFor pin s value m).1
    PinValue.Fits typed.kind typed.default ∧
    (∀ e : EnumType, typed.kind = .enumeration e →
      ∃ i, typed.default = .enumeration e i ∧
        ((∃ known, e = .catalogued known) ∧ e.size = 0 ∨
          i < e.size ∧ ∃ v, e.valueAt? i = some v ∧ typed.default.toJson = v.toJson)) ∧
    (∀ family : MediaKind, typed.kind = .media family →
      typed.default = .media none ∨
        ∃ r : MediaReference, typed.default = .media (some r) ∧ r.Tidy family) ∧
    (typed.kind = .float →
      ∃ x : Double.Finite, typed.default = .float (.finite x) ∧
        ∃ n, typed.default.toJson = .number n) := by
  intro m typed
  have hm : m.Sound := (Mint.afterUses_sound (Mint.named_sound source defaultName) session).1
  have hkind : typed.kind = (t.kindFor pin s m).1 := t.kind_typeFor pin s value m
  have hfits : PinValue.Fits typed.kind typed.default := t.fits_typeFor pin s value m
  clear_value typed
  refine ⟨hfits, ?_, ?_, ?_⟩
  · intro e he
    rw [he] at hfits
    obtain ⟨i, hdefault, hinside⟩ := hfits.exists_ordinal
    refine ⟨i, hdefault, ?_⟩
    rcases hinside with hlt | ⟨hempty, -⟩
    · have hi : e.valueAt? i = some e.variants[i] := List.getElem?_eq_getElem hlt
      refine Or.inr ⟨hlt, _, hi, ?_⟩
      rw [hdefault, PinValue.toJson_enumeration hi]
    · -- a minted type would have a member
      rcases catalogued_or_inhabited hm (hkind.symm.trans he) with hknown | hpos
      · exact Or.inl ⟨hknown, hempty⟩
      · omega
  · intro family hfamily
    rw [hfamily] at hfits
    exact hfits.exists_reference
  · intro hfloat
    rw [hfloat] at hfits
    obtain ⟨x, hdefault⟩ := hfits.exists_finite
    refine ⟨x, hdefault, .float x, ?_⟩
    rw [hdefault]
    rfl

/-- A word in other letters for an enumerated type that is made for it, a padded address for an image, and a
    text for a number, with a mint that another order has gone to before. -/
theorem default_inhabits_kind_level :
    let t : Typer := ⟨.empty 0, {}⟩
    let m := (Mint.named 0 "Choice").afterUses [.order (Mint.levelOrder [(1 : Int64)])]
    let levels := SchemaType.enumeration "Level" [.string "low", .string "high"]
    let level := (t.typeFor (some "gain") levels (some (.string " HIGH ")) m).1
    let icon := (t.typeFor none (.ofWord "image") (some (.string " a.png ")) m).1
    let gain := (t.typeFor none (.ofWord "float") (some (.string "0.5")) m).1
    (∃ e, level.kind = .enumeration e ∧ ∃ i, level.default = .enumeration e i ∧ i < e.size ∧
      ∃ v, e.valueAt? i = some v ∧ level.default.toJson = v.toJson) ∧
    (icon.kind = .media .image ∧ ∃ r, icon.default = .media (some r) ∧ r.Tidy .image) ∧
    (gain.kind = .float ∧ ∃ x : Double.Finite, gain.default = .float (.finite x) ∧
      ∃ n, gain.default.toJson = .number n) := by
  intro t m levels level icon gain
  -- any session will do for what follows, so the mint is not run
  obtain ⟨session, hm⟩ : ∃ session, m = (Mint.named 0 "Choice").afterUses session := ⟨_, rfl⟩
  clear_value m
  subst hm
  refine ⟨?_, ?_, ?_⟩
  · have hneeds : t.NeedsMint levels := needsMint_of_empty 0 {} "Level" (by simp)
    have hkind : level.kind = _ :=
      (t.kind_typeFor _ _ _ _).trans (congrArg Prod.fst (kindFor_of_needsMint hneeds _ _))
    obtain ⟨-, henum, -, -⟩ :=
      default_inhabits_kind 0 "Choice" session t (some "gain") levels (some (.string " HIGH "))
    obtain ⟨i, hdefault, ⟨⟨known, hknown⟩, -⟩ | hinside⟩ := henum _ hkind
    · cases hknown
    · exact ⟨_, hkind, i, hdefault, hinside⟩
  · have himage : (SchemaType.ofWord "image").kind = .media .image := by decide
    have hkind : icon.kind = .media .image := by
      rw [kind_typeFor, kindFor, himage]
    obtain ⟨-, -, hmedia, -⟩ :=
      default_inhabits_kind 0 "Choice" session t none (.ofWord "image") (some (.string " a.png "))
    have hread : PinValue.mediaOf? .image (.string " a.png ") = some ⟨.image, "a.png", none⟩ := by decide
    have hdefault : icon.default = .media (some ⟨.image, "a.png", none⟩) := by
      rw [default_typeFor, hkind, PinValue.initial_of_mediaOf? hread]
    rcases hmedia _ hkind with hnone | hsome
    · rw [hdefault] at hnone
      cases hnone
    · exact ⟨hkind, hsome⟩
  · have hnumber : (SchemaType.ofWord "float").kind = .number := by decide
    have hkind : gain.kind = .float := by
      rw [kind_typeFor, kindFor, hnumber]
    obtain ⟨-, -, -, hfloat⟩ :=
      default_inhabits_kind 0 "Choice" session t none (.ofWord "float") (some (.string "0.5"))
    exact ⟨hkind, hfloat hkind⟩

end Typer

end PinTypes
