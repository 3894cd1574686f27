import PinTypes.Identifier

/-!
# `PinTypes.Proofs.Identifier` — what identifiers are made of

Sanitizing replaces characters, then only drops some: `collapsed` and `stripped` give sublists. So every
character of an identifier is a letter, a digit or an underscore, whatever the text was. In particular
none is a colon, which is what lets a name stand in front of a colon in a mint key.
-/

namespace PinTypes.Identifier

open PinTypes.Text (isAlphanumeric)

/-- What a character of an identifier may be. -/
def IsNameChar (c : Char) : Prop := isAlphanumeric c = true ∨ c = '_'

theorem mem_masked {c : Char} {cs : List Char} (h : c ∈ masked cs) : IsNameChar c := by
  obtain ⟨d, _, rfl⟩ := List.mem_map.mp h
  unfold IsNameChar
  split
  · rename_i hd
    simpa [Bool.or_eq_true] using hd
  · exact Or.inr rfl

theorem collapsed_sublist (cs : List Char) : (collapsed cs).Sublist cs := by
  induction cs with
  | nil => exact List.Sublist.refl []
  | cons c cs ih =>
    unfold collapsed
    split
    · exact ih.cons c
    · exact ih.cons_cons c

theorem stripped_sublist (cs : List Char) : (stripped cs).Sublist cs := by
  have hfront : (cs.dropWhile (· == '_')).Sublist cs := List.dropWhile_sublist _
  have hback := (List.dropWhile_sublist (l := (cs.dropWhile (· == '_')).reverse) (· == '_')).reverse
  rw [List.reverse_reverse] at hback
  exact hback.trans hfront

/-- **Identifiers are made of name characters.** -/
theorem mem_identifierChars {c : Char} {cs : List Char} (h : c ∈ identifierChars cs) :
    IsNameChar c :=
  mem_masked ((collapsed_sublist _).subset ((stripped_sublist _).subset h))

theorem not_isNameChar_colon : ¬ IsNameChar ':' := by
  rintro (h | h)
  · exact absurd h (by decide)
  · exact absurd h (by decide)

theorem colon_notMem_ofText (s : String) : ':' ∉ (ofText s).toList := by
  intro h
  rw [ofText, String.toList_ofList] at h
  exact not_isNameChar_colon (mem_identifierChars h)

end PinTypes.Identifier
