import PinTypes.Number.Layout
import PinTypes.Proofs.Number.Digits

/-!
# `PinTypes.Proofs.Number.Layout` — what the text of a double is made of

Laying out digits adds zeros and a point and nothing else (`mem_positional`). So the plain text of a double has
digits, a point and a sign, or it is one of the words for doubles that are no numbers (`mem_plainText`).
-/

namespace PinTypes.Number

variable {c : Char}

/-- Nothing is added to the digits but zeros and a point. -/
theorem mem_positional {showsPoint : Bool} {ds : List Char} {e : Int} (h : c ∈ positional showsPoint ds e) :
    c ∈ ds ∨ c = '0' ∨ c = '.' := by
  simp only [positional] at h
  split at h
  · -- a whole number: zeros behind the digits, and perhaps a point and one more zero
    rcases List.mem_append.mp h with hfront | hpoint
    · rcases List.mem_append.mp hfront with hdigit | hzero
      · exact Or.inl hdigit
      · exact Or.inr (Or.inl (List.eq_of_mem_replicate hzero))
    · cases showsPoint with
      | false => cases hpoint
      | true =>
        have hdot : c = '.' ∨ c = '0' := by simpa using hpoint
        exact Or.inr hdot.symm
  · split at h
    · -- the point stands among the digits
      rcases List.mem_append.mp h with hbefore | hbehind
      · exact Or.inl (List.mem_of_mem_take hbefore)
      · rcases List.mem_cons.mp hbehind with hdot | hdigit
        · exact Or.inr (Or.inr hdot)
        · exact Or.inl (List.mem_of_mem_drop hdigit)
    · -- a zero, the point and zeros stand before the digits
      rcases List.mem_append.mp h with hfront | hdigit
      · have hzero : c = '0' ∨ c = '.' := by
          rcases List.mem_cons.mp hfront with hzero | hfront
          · exact Or.inl hzero
          · rcases List.mem_cons.mp hfront with hdot | hzeros
            · exact Or.inr hdot
            · exact Or.inl (List.eq_of_mem_replicate hzeros)
        exact Or.inr hzero
      · exact Or.inl hdigit

theorem mem_plainLayout_text {x : Double.Finite} (h : c ∈ plainLayout.text x) :
    c.isDigit = true ∨ c = '.' ∨ c = '-' := by
  have hlaid : ∀ {ds : List Char} {e : Int}, (∀ d ∈ ds, d.isDigit = true) → c ∈ positional false ds e →
      c.isDigit = true ∨ c = '.' ∨ c = '-' := by
    intro ds e hds hc
    rcases mem_positional hc with hdigit | rfl | hdot
    · exact Or.inl (hds c hdigit)
    · exact Or.inl (by decide)
    · exact Or.inr (Or.inl hdot)
  have hbody : c ∈ (if x.significand = 0 then positional false ['0'] 0 else plainLayout.magnitude x) →
      c.isDigit = true ∨ c = '.' ∨ c = '-' := by
    intro hc
    split at hc
    · have hzero : ∀ d ∈ ['0'], d.isDigit = true := List.all_eq_true.mp (by decide)
      exact hlaid hzero hc
    · exact hlaid (fun d hd => isDigit_of_mem_digits hd) hc
  simp only [Layout.text] at h
  split at h
  · rcases List.mem_cons.mp h with hsign | hc
    · exact Or.inr (Or.inr hsign)
    · exact hbody hc
  · exact hbody h

/-- The characters of the words for doubles that are no numbers, with the point and the sign. -/
def signsAndWords : List Char := ['.', '-', 'N', 'a', 'i', 'n', 'f']

/-- The text of a double has digits, a point and a sign, or it is one of three words. -/
theorem mem_plainText {x : Double} (h : c ∈ plainText x) : c.isDigit = true ∨ c ∈ signsAndWords := by
  cases x with
  | nan =>
    have hword : plainText .nan ⊆ signsAndWords := by decide
    exact Or.inr (hword h)
  | infinity negative =>
    have hword : plainText (.infinity negative) ⊆ signsAndWords := by
      cases negative with
      | false => decide
      | true => decide
    exact Or.inr (hword h)
  | finite y =>
    rcases mem_plainLayout_text h with hdigit | rfl | rfl
    · exact Or.inl hdigit
    · exact Or.inr (by decide)
    · exact Or.inr (by decide)

end PinTypes.Number
