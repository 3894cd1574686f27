import PinTypes.Proofs.SchemaType.Classes
import PinTypes.Proofs.SchemaType.Wrapping
import PinTypes.Proofs.Typer.Sessions

/-!
# `PinTypes.Proofs.Typer.Dispatch` — classes of schema types and kinds of pins

The classes of a schema type, the kind of pin for it and the narrowing of unions each go by a table of words
of their own. Here the three are shown to agree on every word.

Most kinds of schema types lead to one kind of pin, whatever else is known (`Kind.pinKind?`). The others are
enumerated types, which need the catalog or the mint, and unions, which are narrowed. `Typer.Leads` lists
these ways, and `Typer.leads_kindFor` says that a typer takes one of them, whatever it is given; each
agreement is then read off the ways.

A type that is built from nothing shows its own kind and no other. So a union around it is narrowed to the
scalar family of that kind, or to objects if it has none (`family_eq_iff_holds`): the table that unions are
narrowed by is the table of scalar kinds.

## Contents
- **Kinds of pins.** `Kind.pinKind?`, `Typer.Leads`, `Typer.leads_kindFor`.
- **What leads to a kind.** `Leads.eq_textList_iff`, `Leads.eq_media_iff`, `Leads.eq_of_pinKind?`.
- **A union around one type.** `SchemaType.family_eq_iff_holds`, `ScalarFamily.pinKinds`,
  `Leads.holds_iff`, `Leads.around`.
- **Main statement.** `Typer.kind_agrees_with_classes`.
-/

namespace PinTypes

/-! ## Kinds of pins -/

/-- The kind of pin that a kind of schema types leads to, where nothing else has a part in it. -/
def Kind.pinKind? : Kind → Option PinKind
  | text | tuple | folder | modelReference | unknown => some .text
  | integer => some .integer
  | number => some .float
  | boolean => some .boolean
  | list => some .textList
  | dict => some .object
  | dateTime => some .dateTime
  | media family => some (.media family)
  | enumeration | union => none

theorem Kind.pinKind?_eq_textList_iff {k : Kind} : k.pinKind? = some .textList ↔ k = .list := by
  cases k <;> simp [pinKind?]

theorem Kind.pinKind?_eq_media_iff {k : Kind} {family : MediaKind} :
    k.pinKind? = some (.media family) ↔ k = .media family := by
  cases k <;> simp [pinKind?]

theorem Kind.pinKind?_ne_enumeration (k : Kind) (e : EnumType) : k.pinKind? ≠ some (.enumeration e) := by
  cases k <;> simp [pinKind?]

namespace Typer

/-- The ways from a schema type to a kind of pin. -/
inductive Leads (s : SchemaType) : PinKind → Prop
  | byKind {k : PinKind} (h : s.kind.pinKind? = some k) : Leads s k
  | enumerated (h : s.kind = .enumeration) (e : EnumType) : Leads s (.enumeration e)
  /-- The enumerated type is not in the catalog and lists no values. -/
  | unlisted (h : s.kind = .enumeration) : Leads s .text
  | narrowed (h : s.kind = .union) : Leads s s.family.pinKind

/-- **A typer takes one of these ways,** whatever its catalog and settings, the pin and the mint are. -/
theorem leads_kindFor (t : Typer) (pin : Option String) (s : SchemaType) (m : Mint) :
    Leads s (t.kindFor pin s m).1 := by
  unfold kindFor
  cases hkind : s.kind with
  | enumeration =>
    cases t.enumType pin s m with
    | mk made m =>
      cases made with
      | none => exact .unlisted hkind
      | some e => exact .enumerated hkind e
  | union => exact .narrowed hkind
  | _ => exact .byKind (by rw [hkind]; rfl)

theorem leads_reply (t : Typer) (m : Mint) (c : Call) : Leads c.schema (t.reply m c).1.kind := by
  rw [kind_reply]
  exact t.leads_kindFor c.pin? c.schema m

/-! ## What leads to a kind -/

namespace Leads

variable {s : SchemaType} {k : PinKind} (h : Leads s k)

include h

/-- Where the kind of the schema type decides, it is the only way. -/
theorem eq_of_pinKind? {l : PinKind} (hl : s.kind.pinKind? = some l) : k = l := by
  cases h with
  | byKind h => exact Option.some.inj (h.symm.trans hl)
  | enumerated h | unlisted h | narrowed h =>
    -- of these kinds none leads anywhere by itself
    rw [h] at hl
    cases hl

theorem eq_textList_iff : k = .textList ↔ s.kind = .list := by
  cases h with
  | byKind h => rw [← Kind.pinKind?_eq_textList_iff, h, Option.some.injEq]
  | enumerated h | unlisted h => simp [h]
  | narrowed h => cases s.family <;> simp [h, Family.pinKind]

theorem eq_media_iff {family : MediaKind} : k = .media family ↔ s.kind = .media family := by
  cases h with
  | byKind h => rw [← Kind.pinKind?_eq_media_iff, h, Option.some.injEq]
  | enumerated h | unlisted h => simp [h]
  | narrowed h => cases s.family <;> simp [h, Family.pinKind]

theorem kind_of_eq_enumeration {e : EnumType} (he : k = .enumeration e) : s.kind = .enumeration := by
  cases h with
  | byKind h =>
    rw [he] at h
    exact absurd h (s.kind.pinKind?_ne_enumeration e)
  | enumerated h | unlisted h => exact h
  | narrowed h => cases hfamily : s.family <;> rw [hfamily] at he <;> cases he

theorem eq_family_of_union (hunion : s.kind = .union) : k = s.family.pinKind := by
  cases h with
  | byKind h | enumerated h | unlisted h =>
    rw [hunion] at h
    cases h
  | narrowed => rfl

end Leads

/-- Two schema types of one kind lead to one kind of pin, unless they are enumerated types or unions. -/
theorem Leads.eq_of_kind_eq {s u : SchemaType} {k l : PinKind} (hk : Leads s k) (hl : Leads u l)
    (hsame : u.kind = s.kind) (henum : s.kind ≠ .enumeration) (hunion : s.kind ≠ .union) : l = k := by
  cases hk with
  | byKind h => exact hl.eq_of_pinKind? ((congrArg Kind.pinKind? hsame).trans h)
  | enumerated h | unlisted h => exact absurd h henum
  | narrowed h => exact absurd h hunion

end Typer

/-! ## A union around one type -/

namespace ScalarFamily

/-- The kinds of pins for the scalar kinds of a family. -/
def pinKinds : ScalarFamily → List PinKind
  | numeric => [.integer, .float]
  | boolean => [.boolean]
  | text => [.text]

/-- A scalar kind is of a family exactly if it leads to a kind of pin of that family. -/
theorem holds_iff_mem_pinKinds (f : ScalarFamily) {kind : Kind} {k : PinKind}
    (hscalar : kind.isScalar = true) (hk : kind.pinKind? = some k) :
    f.holds kind = true ↔ k ∈ f.pinKinds := by
  cases kind <;> cases hk <;> cases f <;>
    simp_all [holds, pinKinds, Kind.isScalar, Kind.isNumeric, Kind.isBoolean, Kind.isTextual]

theorem isScalar_of_holds {f : ScalarFamily} {kind : Kind} (h : f.holds kind = true) :
    kind.isScalar = true := by
  cases f <;> cases kind <;> first | rfl | cases h

/-- What a kind shows by itself is its own family. -/
theorem ofSigns_eq_family_iff (f : ScalarFamily) (k : Kind) :
    Family.ofSigns k.isNumeric k.isBoolean k.isTextual (!k.isNumeric && !k.isBoolean && !k.isTextual) =
      f.family ↔ f.holds k = true := by
  cases k <;> cases f <;>
    simp [Family.ofSigns, family, holds, Kind.isNumeric, Kind.isBoolean, Kind.isTextual]

end ScalarFamily

theorem Kind.exists_pinKind?_of_isScalar {kind : Kind} (h : kind.isScalar = true) :
    ∃ k, kind.pinKind? = some k := by
  cases kind <;> first | exact ⟨_, rfl⟩ | cases h

theorem Family.pinKind_inj {a b : Family} : a.pinKind = b.pinKind ↔ a = b := by
  cases a <;> cases b <;> simp [pinKind]

/-- **A union around a type that is built from nothing** is narrowed to the scalar family of that type. -/
theorem SchemaType.family_eq_iff_holds {s u : SchemaType} (hname : u.name? = none) (hargs : u.args = [s])
    (hleaf : s.args = []) (f : ScalarFamily) : u.family = f.family ↔ f.holds s.kind = true := by
  have hmentions (p : Kind → Bool) : s.mentions p = p s.kind := by
    rw [mentions_eq, hleaf, List.any_nil, Bool.or_false]
  rw [family_eq_ofSigns (name?_bind_of_none hname), hargs]
  -- the one member answers all four questions, and by its kind alone
  simp only [List.any_cons, List.any_nil, Bool.or_false, isForeign, hmentions]
  exact f.ofSigns_eq_family_iff s.kind

namespace Typer

/-- A type is of a scalar family exactly if it is a scalar one and leads to a kind of pin of that family. -/
theorem Leads.holds_iff {s : SchemaType} {k : PinKind} (h : Leads s k) (f : ScalarFamily) :
    f.holds s.kind = true ↔ s.isScalar = true ∧ k ∈ f.pinKinds := by
  constructor
  · intro hf
    have hscalar : s.isScalar = true := ScalarFamily.isScalar_of_holds hf
    obtain ⟨l, hl⟩ := Kind.exists_pinKind?_of_isScalar hscalar
    rw [h.eq_of_pinKind? hl]
    exact ⟨hscalar, (f.holds_iff_mem_pinKinds hscalar hl).mp hf⟩
  · rintro ⟨hscalar, hk⟩
    obtain ⟨l, hl⟩ := Kind.exists_pinKind?_of_isScalar hscalar
    rw [h.eq_of_pinKind? hl] at hk
    exact (f.holds_iff_mem_pinKinds hscalar hl).mpr hk

/-- **What the union around a type leads to** is told by what the type itself leads to. -/
theorem Leads.around {s u : SchemaType} {k l : PinKind} (hk : Leads s k) (hl : Leads u l)
    (hunion : u.kind = .union) (hname : u.name? = none) (hargs : u.args = [s]) (hleaf : s.args = []) :
    (∀ f : ScalarFamily, l = f.family.pinKind ↔ s.isScalar = true ∧ k ∈ f.pinKinds) ∧
    ((∀ f : ScalarFamily, l ≠ f.family.pinKind) → l = .object) := by
  rw [hl.eq_family_of_union hunion]
  constructor
  · intro f
    rw [Family.pinKind_inj, SchemaType.family_eq_iff_holds hname hargs hleaf, hk.holds_iff]
  · intro hnone
    have hobject : u.family = .object :=
      ScalarFamily.eq_object_of_ne fun f hf => hnone f (congrArg Family.pinKind hf)
    rw [hobject]
    rfl

/-! ## Main statement -/

/-- **Classes, kinds of pins and the narrowing of unions agree.** Take a call of any typer with any mint. The
    class of its schema type is told by the word, and there is one at most. The kind of pin is the list of
    texts exactly for lists, and a medium exactly for assets other than folders and references to models. It
    is an enumerated type for such a schema type alone, an object for dictionaries, and for a union what the
    union is narrowed to. For the other types it depends on the word alone. And if the type is built from
    nothing, a call for a union without a name around it gives numbers, truth values or texts exactly if the
    type is a scalar one and gives that itself, and an object in all other cases. -/
theorem kind_agrees_with_classes (t : Typer) (m : Mint) (c : Call) :
    let s := c.schema
    let kind := (t.reply m c).1.kind
    (∀ k : TypeClass, k.holds s = true ↔ s.kindName ∈ k.words) ∧
    (∀ k l : TypeClass, k.holds s = true → l.holds s = true → k = l) ∧
    (kind = .textList ↔ s.isList = true) ∧
    ((∃ family, kind = .media family) ↔
      s.isAsset = true ∧ s.kindName ≠ "folder" ∧ s.kindName ≠ "model_ref") ∧
    (∀ e, kind = .enumeration e → s.isEnumeration = true) ∧
    (s.isDict = true → kind = .object) ∧
    (s.isUnion = true → kind = s.family.pinKind) ∧
    (s.isEnumeration = false → s.isUnion = false → ∀ (t' : Typer) (m' : Mint) (c' : Call),
      c'.schema.kindName = s.kindName → (t'.reply m' c').1.kind = kind) ∧
    (s.args = [] → ∀ (t' : Typer) (m' : Mint) (c' : Call),
      c'.schema.isUnion = true → c'.schema.name? = none → c'.schema.args = [s] →
      let outer := (t'.reply m' c').1.kind
      (outer = .float ↔ s.isScalar = true ∧ (kind = .integer ∨ kind = .float)) ∧
      (outer = .boolean ↔ s.isScalar = true ∧ kind = .boolean) ∧
      (outer = .text ↔ s.isScalar = true ∧ kind = .text) ∧
      (outer ≠ .float → outer ≠ .boolean → outer ≠ .text → outer = .object)) := by
  intro s kind
  have hkind : Leads s kind := t.leads_reply m c
  refine ⟨fun k => k.holds_iff, fun k l => TypeClass.eq_of_holds, ?_, ?_, ?_, ?_, ?_, ?_, ?_⟩
  · rw [hkind.eq_textList_iff, SchemaType.isList, decide_eq_true_eq]
  · rw [← SchemaType.exists_media_iff]
    exact exists_congr fun _ => hkind.eq_media_iff
  · intro e he
    exact decide_eq_true (hkind.kind_of_eq_enumeration he)
  · intro hdict
    have hk : s.kind = .dict := of_decide_eq_true hdict
    exact hkind.eq_of_pinKind? (by rw [hk]; rfl)
  · intro hunion
    exact hkind.eq_family_of_union (of_decide_eq_true hunion)
  · intro henum hunion t' m' c' hname
    have hsame : c'.schema.kind = s.kind := congrArg Kind.ofName hname
    exact hkind.eq_of_kind_eq (t'.leads_reply m' c') hsame (of_decide_eq_false henum)
      (of_decide_eq_false hunion)
  · intro hleaf t' m' c' hunion hname hargs outer
    obtain ⟨hscalar, hobject⟩ :=
      hkind.around (t'.leads_reply m' c') (of_decide_eq_true hunion) hname hargs hleaf
    have hnumeric := hscalar .numeric
    have hboolean := hscalar .boolean
    have htext := hscalar .text
    simp only [ScalarFamily.pinKinds, List.mem_cons, List.not_mem_nil, or_false] at hnumeric hboolean htext
    refine ⟨hnumeric, hboolean, htext, fun hfloat hbool hstring => hobject ?_⟩
    -- all scalar families are ruled out one by one
    exact ScalarFamily.forall_iff.mpr ⟨hfloat, hbool, hstring⟩

/-- A word with blanks and capitals, by itself and in a union, and a dictionary. -/
theorem kind_agrees_with_classes_number :
    let t : Typer := ⟨.empty 0, {}⟩
    let m := Mint.named 0 "Choice"
    let s := SchemaType.ofWord " Number "
    let other := SchemaType.ofWord "NUMBER"
    let u := SchemaType.union [s]
    let d := SchemaType.ofWord "Dict"
    (s.isEnumeration = false ∧ s.isUnion = false ∧ other.kindName = s.kindName ∧
      (t.reply m (.typePin "gain" other none)).1.kind = (t.reply m (.kindOf s)).1.kind) ∧
    (s.args = [] ∧ u.isUnion = true ∧ u.name? = none ∧ (t.reply m (.kindOf u)).1.kind = .float) ∧
    (d.isDict = true ∧ (t.reply m (.kindOf d)).1.kind = .object) := by
  intro t m s other u d
  have henum : s.isEnumeration = false := by decide
  have hunion : s.isUnion = false := by decide
  have hname : other.kindName = s.kindName := by decide
  have hunion' : u.isUnion = true := SchemaType.isUnion_union [s]
  have hdict : d.isDict = true := by decide
  obtain ⟨-, -, -, -, -, -, -, hsame, haround⟩ := kind_agrees_with_classes t m (.kindOf s)
  obtain ⟨-, -, -, -, -, hobject, -⟩ := kind_agrees_with_classes t m (.kindOf d)
  obtain ⟨hfloat, -⟩ := haround rfl t m (.kindOf u) hunion' rfl rfl
  -- the word itself gives numbers
  have hk : s.kind.pinKind? = some .float := by
    have hnumber : s.kind = .number := by decide
    rw [hnumber]
    rfl
  have hkind : (t.reply m (.kindOf s)).1.kind = .float := (t.leads_reply m (.kindOf s)).eq_of_pinKind? hk
  exact ⟨⟨henum, hunion, hname, hsame henum hunion t m (.typePin "gain" other none) hname⟩,
    ⟨rfl, hunion', rfl, hfloat.mpr ⟨by decide, Or.inr hkind⟩⟩, hdict, hobject hdict⟩

end Typer

end PinTypes
