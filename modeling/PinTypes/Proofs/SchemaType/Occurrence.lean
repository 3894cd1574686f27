import PinTypes.Proofs.Text.Blank
import PinTypes.SchemaType.Family
import Mathlib.Logic.Relation

/-!
# `PinTypes.Proofs.SchemaType.Occurrence` — which scalar kinds occur in a type

Scalar kinds come in three families, and each kind has several names. A family *shows* in a type if a name
of it is the word of the type itself or of a type that stands in it, at any depth. That is said here of the
tree and of the words in it, without the search that decides it; `mentions_iff` ties the two together.

A word may be spelled in many ways. `Respelled` lists the changes that are meant: the case of ASCII letters,
blanks around the word, and another name of the same scalar family. `Respelled.holds_eq` shows that none of
them is seen by a search for scalar kinds.

## Contents
- **Scalar families.** `ScalarFamily`, its words and kinds, `ScalarFamily.holds_ofName_iff`.
- **Spellings.** `Respelled`, `Respelled.holds_eq`.
- **What stands in a type.** `IsArg`, `Within`, `Below`, `induction_on_args`.
- **What shows.** `Shows`, `ShowsBelow`, `mentions_iff`.
-/

namespace PinTypes

/-! ## Scalar families -/

/-- A family of scalar kinds. -/
inductive ScalarFamily where
  | numeric
  | boolean
  | text
deriving DecidableEq, Repr

namespace ScalarFamily

/-- The names of the kinds of a family. -/
def words : ScalarFamily → List String
  | numeric => ["int", "integer", "float", "number"]
  | boolean => ["bool", "boolean"]
  | text => ["str", "string", "text"]

/-- Whether a kind is of the family. -/
def holds : ScalarFamily → Kind → Bool
  | numeric => Kind.isNumeric
  | boolean => Kind.isBoolean
  | text => Kind.isTextual

/-- **The names of a family** name the kinds of the family, and no other word does. -/
theorem holds_ofName_iff (f : ScalarFamily) {word : String} :
    f.holds (.ofName word) = true ↔ word ∈ f.words := by
  constructor
  · intro h
    unfold Kind.ofName at h
    split at h <;> cases f <;>
      simp [holds, Kind.isNumeric, Kind.isBoolean, Kind.isTextual, words] at h ⊢
  · intro h
    cases f <;> simp only [words, List.mem_cons, List.not_mem_nil, or_false] at h
    case numeric => rcases h with rfl | rfl | rfl | rfl <;> rfl
    case boolean => rcases h with rfl | rfl <;> rfl
    case text => rcases h with rfl | rfl | rfl <;> rfl

/-- A kind is of one family at most. -/
theorem eq_of_holds {f g : ScalarFamily} {k : Kind} (hf : f.holds k = true) (hg : g.holds k = true) :
    f = g := by
  cases f <;> cases g <;> cases k <;>
    simp [holds, Kind.isNumeric, Kind.isBoolean, Kind.isTextual] at hf hg ⊢

end ScalarFamily

/-! ## Spellings -/

/-- One word is the other in a different spelling, or another name of the same scalar family. -/
inductive Respelled : String → String → Prop
  /-- The words differ in the case of ASCII letters alone. -/
  | letterCase {word other : String}
      (h : word.toList.map Char.toLower = other.toList.map Char.toLower) : Respelled word other
  /-- There are blanks around the other word. -/
  | padded {before after : List Char} (word : String) (hbefore : ∀ c ∈ before, Text.isBlank c = true)
      (hafter : ∀ c ∈ after, Text.isBlank c = true) :
      Respelled word (String.ofList (before ++ (word.toList ++ after)))
  /-- Both are names of one scalar family. -/
  | synonym {f : ScalarFamily} {word other : String} (h : word ∈ f.words) (h' : other ∈ f.words) :
      Respelled word other

theorem canonicalWord_of_letterCase {word other : String}
    (h : word.toList.map Char.toLower = other.toList.map Char.toLower) :
    canonicalWord word = canonicalWord other := by
  have hlower (w : String) : canonicalWord w = String.ofList (Text.trim (w.toList.map Char.toLower)) := by
    have hmap : Text.lowerAscii w.toList = w.toList.map Char.toLower :=
      List.map_congr_left fun c _ => Text.smallAscii_eq_toLower c
    rw [canonicalWord, Text.loweredAscii, Text.toList_trimmed, ← Text.trim_lowerAscii, hmap]
  rw [hlower, hlower, h]

theorem canonicalWord_padded {before after : List Char} (word : String)
    (hbefore : ∀ c ∈ before, Text.isBlank c = true) (hafter : ∀ c ∈ after, Text.isBlank c = true) :
    canonicalWord (String.ofList (before ++ (word.toList ++ after))) = canonicalWord word := by
  rw [canonicalWord, canonicalWord, Text.trimmed, String.toList_ofList, Text.trim_padded hbefore hafter,
    Text.trimmed]

/-- A name of a scalar family is in the form in which words are compared. -/
theorem ScalarFamily.canonicalWord_of_mem {f : ScalarFamily} {word : String} (h : word ∈ f.words) :
    canonicalWord word = word := by
  have hall : ∀ w ∈ f.words, canonicalWord w = w := by cases f <;> decide
  exact hall word h

/-- **Respelling a word leaves the scalar family alone.** -/
theorem Respelled.holds_eq {word other : String} (h : Respelled word other) (f : ScalarFamily) :
    f.holds (.ofName (canonicalWord word)) = f.holds (.ofName (canonicalWord other)) := by
  cases h with
  | letterCase h => rw [canonicalWord_of_letterCase h]
  | padded _ hbefore hafter => rw [canonicalWord_padded word hbefore hafter]
  | @synonym g _ _ hword hother =>
    rw [ScalarFamily.canonicalWord_of_mem hword, ScalarFamily.canonicalWord_of_mem hother]
    have hkind := (g.holds_ofName_iff).mpr hword
    have hkind' := (g.holds_ofName_iff).mpr hother
    -- both kinds are of the family `g`, and of no other
    by_cases hfg : f = g
    · rw [hfg, hkind, hkind']
    · have hnot : f.holds (.ofName word) = false :=
        Bool.eq_false_iff.mpr fun hf => hfg (ScalarFamily.eq_of_holds hf hkind)
      have hnot' : f.holds (.ofName other) = false :=
        Bool.eq_false_iff.mpr fun hf => hfg (ScalarFamily.eq_of_holds hf hkind')
      rw [hnot, hnot']

namespace SchemaType

/-! ## What stands in a type -/

/-- The type is one that the other is built from: an item, a key, a value or a member. -/
def IsArg (a t : SchemaType) : Prop := a ∈ t.args

/-- The type is the other one or stands in it, at any depth. -/
def Within (s t : SchemaType) : Prop := Relation.ReflTransGen IsArg s t

/-- The type stands in the other one, at any depth. -/
def Below (s t : SchemaType) : Prop := Relation.TransGen IsArg s t

theorem below_iff {s t : SchemaType} : Below s t ↔ ∃ a ∈ t.args, Within s a := by
  rw [Below, Relation.TransGen.tail'_iff]
  exact ⟨fun ⟨a, hs, ha⟩ => ⟨a, ha, hs⟩, fun ⟨a, ha, hs⟩ => ⟨a, hs, ha⟩⟩

theorem within_iff {s t : SchemaType} : Within s t ↔ s = t ∨ Below s t := by
  rw [Within, Relation.reflTransGen_iff_eq_or_transGen]
  exact or_congr_left eq_comm

theorem sizeOf_arg_lt {a t : SchemaType} (h : a ∈ t.args) : sizeOf a < sizeOf t := by
  obtain ⟨word, declaredName, values, args, optional⟩ := t
  have hargs : sizeOf a < sizeOf args := List.sizeOf_lt_of_mem h
  simp only [SchemaType.mk.sizeOf_spec]
  omega

/-- What holds of a type as soon as it holds of those that it is built from holds of every type. -/
theorem induction_on_args {P : SchemaType → Prop} (h : ∀ t : SchemaType, (∀ a ∈ t.args, P a) → P t)
    (t : SchemaType) : P t :=
  h t fun a _ => induction_on_args h a
termination_by sizeOf t
decreasing_by exact sizeOf_arg_lt ‹_›

/-! ## What shows -/

/-- A name of the family is the word of the type, or of one that stands in it. -/
def Shows (f : ScalarFamily) (t : SchemaType) : Prop := ∃ s, Within s t ∧ s.kindName ∈ f.words

/-- A name of the family is the word of a type that stands in this one. -/
def ShowsBelow (f : ScalarFamily) (t : SchemaType) : Prop := ∃ s, Below s t ∧ s.kindName ∈ f.words

theorem showsBelow_iff {f : ScalarFamily} {t : SchemaType} :
    t.ShowsBelow f ↔ ∃ a ∈ t.args, a.Shows f := by
  constructor
  · rintro ⟨s, hs, hword⟩
    obtain ⟨a, ha, hsa⟩ := below_iff.mp hs
    exact ⟨a, ha, s, hsa, hword⟩
  · rintro ⟨a, ha, s, hsa, hword⟩
    exact ⟨s, below_iff.mpr ⟨a, ha, hsa⟩, hword⟩

theorem shows_iff {f : ScalarFamily} {t : SchemaType} :
    t.Shows f ↔ t.kindName ∈ f.words ∨ t.ShowsBelow f := by
  constructor
  · rintro ⟨s, hs, hword⟩
    rcases within_iff.mp hs with rfl | hbelow
    · exact Or.inl hword
    · exact Or.inr ⟨s, hbelow, hword⟩
  · rintro (hword | ⟨s, hbelow, hword⟩)
    · exact ⟨t, within_iff.mpr (Or.inl rfl), hword⟩
    · exact ⟨s, within_iff.mpr (Or.inr hbelow), hword⟩

theorem anyMentions_eq_any (p : Kind → Bool) (ts : List SchemaType) :
    anyMentions p ts = ts.any (·.mentions p) := by
  induction ts with
  | nil => rfl
  | cons t ts ih => rw [anyMentions, List.any_cons, ih]

theorem mentions_eq (p : Kind → Bool) (t : SchemaType) :
    t.mentions p = (p t.kind || t.args.any (·.mentions p)) := by
  obtain ⟨word, declaredName, values, args, optional⟩ := t
  rw [mentions, anyMentions_eq_any]

/-- **The search finds what shows.** By induction on the tree. -/
theorem mentions_iff (f : ScalarFamily) (t : SchemaType) : t.mentions f.holds = true ↔ t.Shows f := by
  induction t using induction_on_args with
  | h t ih =>
    have hargs : (∃ a ∈ t.args, a.mentions f.holds = true) ↔ ∃ a ∈ t.args, a.Shows f :=
      exists_congr fun a => and_congr_right fun ha => ih a ha
    rw [mentions_eq, Bool.or_eq_true, List.any_eq_true, hargs, shows_iff, showsBelow_iff]
    exact or_congr_left f.holds_ofName_iff

end SchemaType

end PinTypes
