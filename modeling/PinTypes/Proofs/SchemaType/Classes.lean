import PinTypes.SchemaType.Basic

/-!
# `PinTypes.Proofs.SchemaType.Classes` — the classes of schema types by their words

A schema type is asked for its class in six questions. Each is answered by the kind, and the kind is read off
the word. Here the two tables are written the other way around, as lists: the words that name a kind
(`Kind.words`) and the words that put a type in a class (`TypeClass.words`). `Kind.ofName_eq_iff` ties the
first list to the reading of words. A kind is of one class at most (`Kind.class?`), so no word stands in the
lists of two classes, and `TypeClass.holds_iff` says that the six questions are answered by these lists.

## Contents
- **Words of a kind.** `Kind.words`, `Kind.ofName_eq_iff`.
- **Classes.** `TypeClass`, `TypeClass.words`, `TypeClass.holds`, `Kind.class?`.
- **Classes by words.** `Kind.class?_ofName_iff`, `TypeClass.holds_iff`, `TypeClass.eq_of_holds`,
  `SchemaType.exists_media_iff`.
-/

namespace PinTypes

/-! ## Words of a kind -/

namespace Kind

/-- The words that name a kind, in the form in which words are compared. -/
def words : Kind → List String
  | text => ["str", "string", "text"]
  | integer => ["int", "integer"]
  | number => ["float", "number"]
  | boolean => ["bool", "boolean"]
  | list => ["list", "array"]
  | dict => ["dict", "object"]
  | dateTime => ["datetime"]
  | enumeration => ["enum"]
  | union => ["any", "union", "oneof", "either"]
  | tuple => ["tuple"]
  | media family => [family.name]
  | folder => ["folder"]
  | modelReference => ["model_ref"]
  | unknown => []

theorem ofName_of_mem_words (k : Kind) : ∀ word ∈ k.words, ofName word = k := by
  cases k with
  | media family => cases family <;> decide
  | _ => decide

/-- **The words of a kind** name it, and no other word does. -/
theorem ofName_eq_iff {k : Kind} (hk : k ≠ unknown) {word : String} : ofName word = k ↔ word ∈ k.words := by
  constructor
  · rintro rfl
    unfold ofName at hk ⊢
    -- one case for each word of the table; the last is that of all other words
    split at hk
    case h_27 => exact absurd rfl hk
    all_goals decide
  · exact k.ofName_of_mem_words word

end Kind

/-! ## Classes -/

/-- A class that a schema type is asked for. -/
inductive TypeClass where
  | enumeration
  | list
  | dict
  | union
  | scalar
  | asset
deriving DecidableEq, Repr

/-- The words that put a type in the class. -/
def TypeClass.words : TypeClass → List String
  | enumeration => ["enum"]
  | list => ["list", "array"]
  | dict => ["dict", "object"]
  | union => ["any", "union", "oneof", "either"]
  | scalar => ["int", "integer", "float", "number", "bool", "boolean", "str", "string", "text"]
  | asset => ["image", "audio", "video", "document", "folder", "model_ref"]

/-- Whether the type is of the class. -/
def TypeClass.holds : TypeClass → SchemaType → Bool
  | enumeration => SchemaType.isEnumeration
  | list => SchemaType.isList
  | dict => SchemaType.isDict
  | union => SchemaType.isUnion
  | scalar => SchemaType.isScalar
  | asset => SchemaType.isAsset

/-- The one class that a kind can be of. -/
def Kind.class? : Kind → Option TypeClass
  | text | integer | number | boolean => some .scalar
  | list => some .list
  | dict => some .dict
  | enumeration => some .enumeration
  | union => some .union
  | media _ | folder | modelReference => some .asset
  | dateTime | tuple | unknown => none

/-! ## Classes by words -/

/-- The words of a class are those of its kinds. -/
theorem Kind.words_subset_of_class? {k : Kind} {c : TypeClass} (h : k.class? = some c) :
    k.words ⊆ c.words := by
  cases k with
  | media family =>
    obtain rfl : TypeClass.asset = c := Option.some.inj h
    cases family <;> decide
  | dateTime | tuple | unknown => cases h
  | _ =>
    obtain rfl := Option.some.inj h
    decide

theorem Kind.class?_of_mem_words (c : TypeClass) : ∀ word ∈ c.words, (ofName word).class? = some c := by
  cases c <;> decide

/-- **The words of a class** name the kinds of the class, and no other word does. -/
theorem Kind.class?_ofName_iff {word : String} {c : TypeClass} :
    (ofName word).class? = some c ↔ word ∈ c.words := by
  constructor
  · intro h
    have hknown : ofName word ≠ unknown := by
      intro hunknown
      rw [hunknown] at h
      cases h
    exact words_subset_of_class? h ((ofName_eq_iff hknown).mp rfl)
  · exact class?_of_mem_words c word

namespace TypeClass

variable {s : SchemaType}

/-- The six questions are about the class of the kind. -/
theorem holds_iff_class? (c : TypeClass) : c.holds s = true ↔ s.kind.class? = some c := by
  cases c with
  | scalar =>
    show s.kind.isScalar = true ↔ _
    cases s.kind <;> simp [Kind.isScalar, Kind.isNumeric, Kind.isBoolean, Kind.isTextual, Kind.class?]
  | asset =>
    show s.kind.isAsset = true ↔ _
    cases s.kind <;> simp [Kind.isAsset, Kind.class?]
  | enumeration | list | dict | union =>
    -- one kind alone is asked for
    simp only [holds, SchemaType.isEnumeration, SchemaType.isList, SchemaType.isDict, SchemaType.isUnion,
      decide_eq_true_eq]
    cases s.kind <;> simp [Kind.class?]

/-- **The class of a type is told by its word.** -/
theorem holds_iff (c : TypeClass) : c.holds s = true ↔ s.kindName ∈ c.words := by
  rw [holds_iff_class?]
  exact Kind.class?_ofName_iff

/-- A type is of one class at most. -/
theorem eq_of_holds {c d : TypeClass} (hc : c.holds s = true) (hd : d.holds s = true) : c = d :=
  Option.some.inj ((c.holds_iff_class?.mp hc).symm.trans (d.holds_iff_class?.mp hd))

end TypeClass

/-- Assets are media, folders and references to models, and the last two have one word each. -/
theorem SchemaType.exists_media_iff {s : SchemaType} :
    (∃ family, s.kind = .media family) ↔
      s.isAsset = true ∧ s.kindName ≠ "folder" ∧ s.kindName ≠ "model_ref" := by
  have hfolder : s.kind = .folder ↔ s.kindName = "folder" :=
    (Kind.ofName_eq_iff (by decide)).trans List.mem_singleton
  have hmodel : s.kind = .modelReference ↔ s.kindName = "model_ref" :=
    (Kind.ofName_eq_iff (by decide)).trans List.mem_singleton
  rw [Ne, Ne, ← hfolder, ← hmodel, isAsset]
  cases s.kind <;> simp [Kind.isAsset]

end PinTypes
