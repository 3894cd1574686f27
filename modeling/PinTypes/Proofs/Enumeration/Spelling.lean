import PinTypes.Proofs.Enumeration.Selection
import PinTypes.Proofs.Number.Digits
import PinTypes.Proofs.Text.Blank

/-!
# `PinTypes.Proofs.Enumeration.Spelling` — it does not matter how a scalar is spelled

A type asks two things of what is sent: its key and the position that it reads as. A number has the key of its
text by definition, but its position is taken as it is, while that of a string is read from digits; so the two
agree because digits are read back (`Number.readInt64_showInt`). A truth value is no position, and neither is
a word. Blanks around a string are trimmed before either question is answered.

## Contents
- **Two questions.** `EnumType.select_congr_scalar`.
- **Texts in blanks.** `Scalar.key_surrounded`, `Scalar.ordinal?_surrounded`.
- **Numbers and truth values as texts.** `Scalar.ordinal?_toString_int`,
  `Scalar.ordinal?_toString_bool`.
- **Main statement.** `EnumType.select_spelled`.
-/

namespace PinTypes

open PinTypes.Text (isBlank isBlankText trim trim_padded)

/-! ## Two questions -/

/-- What a type selects depends on the key and the position of the scalar that was sent. -/
theorem EnumType.select_congr_scalar {α β : Type} [ToScalar α] [ToScalar β] {x : α} {y : β}
    (hkey : (toScalar x).key = (toScalar y).key) (hordinal : (toScalar x).ordinal? = (toScalar y).ordinal?)
    (t : EnumType) : t.select x = t.select y := by
  simp only [select, hkey, hordinal]

theorem toScalar_string (s : String) : toScalar s = Scalar.string s := rfl

theorem toScalar_int (n : Int64) : toScalar n = Scalar.int n := rfl

theorem toScalar_bool (b : Bool) : toScalar b = Scalar.bool b := rfl

/-! ## Texts in blanks -/

variable {w w' : String}

theorem Text.trim_surrounded (hw : isBlankText w = true) (hw' : isBlankText w' = true) (s : String) :
    trim (w ++ s ++ w').toList = trim s.toList := by
  rw [String.toList_append, String.toList_append, List.append_assoc]
  exact trim_padded (List.all_eq_true.mp hw) (List.all_eq_true.mp hw') s.toList

namespace Scalar

theorem key_surrounded (hw : isBlankText w = true) (hw' : isBlankText w' = true) (s : String) :
    key (string (w ++ s ++ w')) = key (string s) := by
  apply String.toList_injective
  rw [key_string, key_string, Text.toList_trimmed, Text.toList_trimmed, Text.trim_surrounded hw hw']

theorem ordinal?_surrounded (hw : isBlankText w = true) (hw' : isBlankText w' = true) (s : String) :
    ordinal? (string (w ++ s ++ w')) = ordinal? (string s) := by
  simp only [ordinal?, Text.trim_surrounded hw hw']

/-! ## Numbers and truth values as texts -/

theorem text_int (n : Int64) : text (int n) = toString n := Number.ofList_showInt n.toInt

theorem text_bool (b : Bool) : text (bool b) = toString b := by
  cases b with
  | false => rfl
  | true => rfl

theorem key_toString_int (n : Int64) : key (string (toString n)) = key (int n) := by
  rw [key_string, ← text_int]
  rfl

theorem key_toString_bool (b : Bool) : key (string (toString b)) = key (bool b) := by
  rw [key_string, ← text_bool]
  rfl

theorem ordinal?_toString_int (n : Int64) : ordinal? (string (toString n)) = ordinal? (int n) := by
  have hplain : ∀ c ∈ Number.showInt n.toInt, isBlank c = false := by
    intro c hc
    rcases Number.mem_showInt hc with hdigit | rfl
    · exact Text.not_isBlank_of_isDigit hdigit
    · decide
  have hdigits : (toString n).toList = Number.showInt n.toInt := by
    rw [← text_int, text, String.toList_ofList]
  simp only [ordinal?, hdigits, Text.trim_eq_self hplain, Number.readInt64_showInt]

theorem ordinal?_toString_bool (b : Bool) : ordinal? (string (toString b)) = ordinal? (bool b) := by
  cases b with
  | false => decide
  | true => decide

end Scalar

/-! ## Main statement -/

namespace EnumType

/-- A string between blanks selects what any value selects that has the key and the position of the string. -/
theorem select_surrounded {α : Type} [ToScalar α] {raw : α} {s : String} (hw : isBlankText w = true)
    (hw' : isBlankText w' = true) (hkey : (Scalar.string s).key = (toScalar raw).key)
    (hordinal : (Scalar.string s).ordinal? = (toScalar raw).ordinal?) (t : EnumType) :
    t.select (w ++ s ++ w') = t.select raw := by
  refine select_congr_scalar ?_ ?_ t
  · rw [toScalar_string, Scalar.key_surrounded hw hw', hkey]
  · rw [toScalar_string, Scalar.ordinal?_surrounded hw hw', hordinal]

/-- **A scalar is resolved however it is spelled.** For any type, and any blanks around a text: a string is
    resolved as it is without them, a number as the string of its digits, and a truth value as the word for
    it. And it is the scalar alone that counts, in whichever form it was sent. -/
theorem select_spelled (t : EnumType) (hw : isBlankText w = true) (hw' : isBlankText w' = true) :
    (∀ s : String, t.select (w ++ s ++ w') = t.select s) ∧
    (∀ n : Int64, t.select (w ++ toString n ++ w') = t.select n) ∧
    (∀ b : Bool, t.select (w ++ toString b ++ w') = t.select b) ∧
    (∀ {α : Type} [ToScalar α] (raw : α), t.select (toScalar raw) = t.select raw) := by
  refine ⟨fun s => ?_, fun n => ?_, fun b => ?_, fun _ => rfl⟩
  · refine select_surrounded hw hw' ?_ ?_ t
    · rw [toScalar_string]
    · rw [toScalar_string]
  · refine select_surrounded hw hw' ?_ ?_ t
    · rw [toScalar_int, Scalar.key_toString_int]
    · rw [toScalar_int, Scalar.ordinal?_toString_int]
  · refine select_surrounded hw hw' ?_ ?_ t
    · rw [toScalar_bool, Scalar.key_toString_bool]
    · rw [toScalar_bool, Scalar.ordinal?_toString_bool]

/-- A number and a truth value. -/
def countOrSwitch : EnumType := .minted ⟨⟨0, 0⟩, .make "Steps" [.int 30, .bool true]⟩

/-- Between blanks, digits are still a position, a word is still a key, and a negative number is neither. -/
theorem select_spelled_countOrSwitch :
    isBlankText " " = true ∧ isBlankText "\t" = true ∧
    countOrSwitch.select (" " ++ toString (1 : Int64) ++ "\t") = ⟨1, .ordinal⟩ ∧
    countOrSwitch.select (" " ++ toString true ++ "\t") = ⟨1, .key⟩ ∧
    countOrSwitch.select (" " ++ toString (-3 : Int64) ++ "\t") = ⟨0, .fallback⟩ := by
  have hspace : isBlankText " " = true := by decide
  have htab : isBlankText "\t" = true := by decide
  obtain ⟨-, hnumber, htruth, -⟩ := select_spelled countOrSwitch hspace htab
  refine ⟨hspace, htab, ?_, ?_, ?_⟩
  · exact (hnumber 1).trans (by decide)
  · exact (htruth true).trans (by decide)
  · exact (hnumber (-3)).trans (by decide)

end EnumType

end PinTypes
