import PinTypes.Identifier
import Mathlib.Logic.Function.Basic

/-!
# `PinTypes.Proofs.Identifier.Readable` — display names are read back

A label may hold blanks of its own, so a blank before a capital need not have been put there. What tells the
two apart is the character before the blank. A blank of the label is followed by another one if a capital
comes next, because a blank is no capital; so right behind it there never is a capital
(`not_isCapital_of_head?_spacedAfter`). And between two capitals nothing is put. `unspacedAfter` reads a display
name back by this rule, with the character before as the state that `spacedAfter` has, too.

## Contents
- **Behind other characters.** `not_isCapital_of_head?_spacedAfter`.
- **Reading back.** `unspacedAfter`, `unspacedAfter_spacedAfter`.
- **Display names.** `readable_injective`.
-/

namespace PinTypes.Identifier

open PinTypes.Text (isCapital isCapital_blank)

/-! ## Behind other characters -/

theorem spacedAfter_of_breaks {previous : Option Char} {c : Char}
    (h : isCapital c = true ∧ previous.any (!isCapital ·) = true) (cs : List Char) :
    spacedAfter previous (c :: cs) = ' ' :: c :: spacedAfter (some c) cs := by
  simp [spacedAfter, h.1, h.2]

theorem spacedAfter_of_not_breaks {previous : Option Char} {c : Char}
    (h : ¬ (isCapital c = true ∧ previous.any (!isCapital ·) = true)) (cs : List Char) :
    spacedAfter previous (c :: cs) = c :: spacedAfter (some c) cs := by
  have hbreaks : (isCapital c && previous.any (!isCapital ·)) = false := by
    rw [← Bool.not_eq_true, Bool.and_eq_true]
    exact h
  simp [spacedAfter, hbreaks]

/-- What is put behind a character other than a capital does not start with a capital. -/
theorem not_isCapital_of_head?_spacedAfter {p d : Char} (hp : isCapital p = false) {cs : List Char}
    (hd : (spacedAfter (some p) cs).head? = some d) : isCapital d = false := by
  cases cs with
  | nil => cases hd
  | cons c cs =>
    by_cases hc : isCapital c = true
    · rw [spacedAfter_of_breaks ⟨hc, by simp [hp]⟩] at hd
      cases hd
      exact isCapital_blank
    · rw [spacedAfter_of_not_breaks fun h => hc h.1] at hd
      cases hd
      exact Bool.eq_false_iff.mpr hc

/-! ## Reading back -/

/-- Leaves out each blank that stands between a character other than a capital and a capital, in a text
    that follows the character `previous`. -/
def unspacedAfter (previous : Option Char) : List Char → List Char
  | [] => []
  | [c] => [c]
  | c :: d :: cs =>
    if c = ' ' ∧ isCapital d = true ∧ previous.any (!isCapital ·) = true then
      d :: unspacedAfter (some d) cs
    else c :: unspacedAfter (some c) (d :: cs)

theorem unspacedAfter_of_kept {previous : Option Char} {c : Char} {rest : List Char}
    (h : c = ' ' → ∀ d, rest.head? = some d → isCapital d = false) :
    unspacedAfter previous (c :: rest) = c :: unspacedAfter (some c) rest := by
  cases rest with
  | nil => rfl
  | cons d rest =>
    rw [unspacedAfter, if_neg]
    rintro ⟨hc, hd, -⟩
    rw [h hc d rfl] at hd
    cases hd

/-- **The blanks that were put in are found again.** By induction on the text, with the character before it as
    the state of both sides. -/
theorem unspacedAfter_spacedAfter (previous : Option Char) (cs : List Char) :
    unspacedAfter previous (spacedAfter previous cs) = cs := by
  induction cs generalizing previous with
  | nil => rfl
  | cons c cs ih =>
    by_cases hbreaks : isCapital c = true ∧ previous.any (!isCapital ·) = true
    · rw [spacedAfter_of_breaks hbreaks, unspacedAfter, if_pos ⟨rfl, hbreaks⟩, ih]
    · have hkept : c = ' ' → ∀ d, (spacedAfter (some c) cs).head? = some d → isCapital d = false := by
        rintro rfl d hd
        exact not_isCapital_of_head?_spacedAfter isCapital_blank hd
      rw [spacedAfter_of_not_breaks hbreaks, unspacedAfter_of_kept hkept, ih]

/-! ## Display names -/

/-- **Different labels have different display names.** -/
theorem readable_injective : Function.Injective readable := by
  intro s t h
  have hspaced : spacedAfter none s.toList = spacedAfter none t.toList := String.ofList_injective h
  apply String.toList_injective
  rw [← unspacedAfter_spacedAfter none s.toList, hspaced, unspacedAfter_spacedAfter]

end PinTypes.Identifier
