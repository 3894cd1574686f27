import PinTypes.Proofs.Text.Blank

/-!
# `PinTypes.Proofs.Text.Lowercase` — small letters that only ASCII has

Lower-casing covers all of Unicode, so a text in small ASCII letters may come from letters that are not ASCII.
There are two of those: the sign for kelvin becomes `k`, and capital I with a dot becomes `i` and a dot. All
other characters beyond ASCII stay there, wherever the tables move them (`smallForm_beyond_ascii`), and a
small sigma is Greek in either form. A text without `i` and `k` is therefore the small form of another text
exactly if it is that by the rule for ASCII alone (`lowered_eq_iff`).

## Contents
- **Tables.** `CaseShift.StaysBeyondAscii`, `shifted_beyond_ascii`, `smallCode_beyond_ascii`.
- **One character.** `IsOnlyAscii`, `smallForm_of_ascii`, `smallForm_beyond_ascii`.
- **Texts.** `lowerAfter_eq_iff`, `lowered_eq_iff`.
-/

namespace PinTypes.Text

/-! ## Tables -/

/-- The small letters of the run are characters beyond ASCII. -/
def CaseShift.StaysBeyondAscii (s : CaseShift) : Prop :=
  0x80 ≤ s.run.first + s.distance ∧
    (s.run.last + s.distance < 0xD800 ∨
      0xE000 ≤ s.run.first + s.distance ∧ s.run.last + s.distance < 0x110000)

instance (s : CaseShift) : Decidable s.StaysBeyondAscii := by
  unfold CaseShift.StaysBeyondAscii
  infer_instance

theorem CharRun.bounds_of_holds {r : CharRun} {n : Nat} (h : r.holds n = true) :
    r.first ≤ n ∧ n ≤ r.last := by
  simp only [holds, Bool.and_eq_true, decide_eq_true_iff] at h
  exact h.1

/-- A table without the runs that lead to ASCII leads to characters beyond ASCII. -/
theorem shifted_beyond_ascii {table : List CaseShift} {n : Nat} (hn : 0x80 ≤ n) (hvalid : n.isValidChar)
    (htable : ∀ s ∈ table, s.run.holds n = true → s.StaysBeyondAscii) :
    0x80 ≤ shifted table n ∧ (shifted table n).isValidChar := by
  unfold shifted
  split
  · rename_i s hs
    have hholds : s.run.holds n = true := by simpa using List.find?_some hs
    obtain ⟨hlow, hhigh⟩ := htable s (List.mem_of_find?_eq_some hs) hholds
    obtain ⟨hfirst, hlast⟩ := CharRun.bounds_of_holds hholds
    refine ⟨by omega, ?_⟩
    show _ < 0xD800 ∨ 0xDFFF < _ ∧ _ < 0x110000
    omega
  · exact ⟨hn, hvalid⟩

/-- The run of the sign for kelvin alone. -/
def kelvinRun : CharRun := ⟨0x212A, 0x212A, 1⟩

theorem shifts_stay : ∀ s ∈ shifts, s.StaysBeyondAscii := by decide

theorem furtherShifts_stay : ∀ s ∈ furtherShifts, s.run = kelvinRun ∨ s.StaysBeyondAscii := by decide

theorem smallCode_beyond_ascii {n : Nat} (hn : 0x80 ≤ n) (hvalid : n.isValidChar) (hkelvin : n ≠ 0x212A) :
    0x80 ≤ smallCode n ∧ (smallCode n).isValidChar := by
  rw [smallCode, if_neg (by omega)]
  split
  · exact shifted_beyond_ascii hn hvalid fun s hs _ => shifts_stay s hs
  · refine shifted_beyond_ascii hn hvalid fun s hs hholds => ?_
    refine (furtherShifts_stay s hs).resolve_left fun hrun => hkelvin ?_
    -- the run holds one code point
    rw [hrun] at hholds
    obtain ⟨hfirst, hlast⟩ := CharRun.bounds_of_holds hholds
    exact Nat.le_antisymm hlast hfirst

/-! ## One character -/

/-- A character that is the small form of ASCII characters only. -/
def IsOnlyAscii (d : Char) : Prop := d.toNat < 0x80 ∧ d ≠ 'i' ∧ d ≠ 'k'

instance (d : Char) : Decidable (IsOnlyAscii d) := by
  unfold IsOnlyAscii
  infer_instance

theorem smallForm_of_ascii {c : Char} (hc : c.toNat < 0x80) : smallForm c = [smallAscii c] := by
  have hdot : c ≠ '\u0130' := by
    rintro rfl
    exact absurd hc (by decide)
  rw [smallForm, if_neg hdot, smallCode, if_pos hc]
  by_cases h : 65 ≤ c.toNat ∧ c.toNat ≤ 90
  · have hcode : (0x41 ≤ c.toNat && c.toNat ≤ 0x5A) = true := by simpa using h
    rw [if_pos hcode, smallAscii, if_pos ((isCapitalAscii_iff c).mpr h)]
  · have hcode : ¬ (0x41 ≤ c.toNat && c.toNat ≤ 0x5A) = true := by simpa using h
    rw [if_neg hcode, smallAscii_of_not h, Char.ofNat_toNat]

/-- The small form of a character beyond ASCII begins with one that is not ASCII's alone. -/
theorem smallForm_beyond_ascii {c : Char} (hc : 0x80 ≤ c.toNat) :
    ∃ d ds, smallForm c = d :: ds ∧ ¬ IsOnlyAscii d := by
  by_cases hdot : c = '\u0130'
  · exact ⟨'i', ['\u0307'], by rw [smallForm, if_pos hdot], by decide⟩
  · refine ⟨Char.ofNat (smallCode c.toNat), [], by rw [smallForm, if_neg hdot], ?_⟩
    by_cases hkelvin : c.toNat = 0x212A
    · rw [hkelvin]
      decide
    · obtain ⟨hcode, hvalid⟩ := smallCode_beyond_ascii hc c.valid hkelvin
      have hsmall : (Char.ofNat (smallCode c.toNat)).toNat = smallCode c.toNat := by
        rw [Char.ofNat, dif_pos hvalid]
        rfl
      rintro ⟨hascii, -⟩
      omega

/-! ## Texts -/

/-- What a character beyond ASCII becomes within a text begins with one that is not ASCII's alone. -/
theorem lowerAfter_beyond_ascii {c : Char} (hc : 0x80 ≤ c.toNat) (before cs : List Char) :
    ∃ d ds, lowerAfter before (c :: cs) = d :: ds ∧ ¬ IsOnlyAscii d := by
  rw [lowerAfter]
  by_cases hsigma : c = '\u03A3'
  · refine ⟨smallSigma before cs, _, by rw [if_pos hsigma]; rfl, ?_⟩
    unfold smallSigma
    split
    · decide
    · decide
  · obtain ⟨d, ds, hsmall, hd⟩ := smallForm_beyond_ascii hc
    exact ⟨d, _, by rw [if_neg hsigma, hsmall, List.cons_append], hd⟩

theorem lowerAfter_of_ascii {c : Char} (hc : c.toNat < 0x80) (before cs : List Char) :
    lowerAfter before (c :: cs) = smallAscii c :: lowerAfter (c :: before) cs := by
  have hsigma : c ≠ '\u03A3' := by
    rintro rfl
    exact absurd hc (by decide)
  rw [lowerAfter, if_neg hsigma, smallForm_of_ascii hc]
  rfl

theorem lowerAfter_eq_iff {ds : List Char} (hds : ∀ d ∈ ds, IsOnlyAscii d) (before cs : List Char) :
    lowerAfter before cs = ds ↔ lowerAscii cs = ds := by
  induction cs generalizing before ds with
  | nil => rfl
  | cons c cs ih =>
    by_cases hc : c.toNat < 0x80
    · rw [lowerAfter_of_ascii hc]
      cases ds with
      | nil => simp [lowerAscii]
      | cons d ds =>
        have htail := ih (fun x hx => hds x (List.mem_cons_of_mem d hx)) (c :: before)
        simp only [List.cons.injEq, lowerAscii, List.map_cons] at htail ⊢
        rw [htail]
    · -- neither text can be `ds`, which has nothing to come from beyond ASCII
      have hc : 0x80 ≤ c.toNat := Nat.le_of_not_lt hc
      constructor
      · intro h
        obtain ⟨d, rest, hform, hd⟩ := lowerAfter_beyond_ascii hc before cs
        rw [hform] at h
        exact absurd (hds d (h ▸ List.mem_cons_self)) hd
      · intro h
        have hmem : smallAscii c ∈ ds := h ▸ List.mem_cons_self
        rw [smallAscii_of_not (by omega)] at hmem
        exact absurd (hds c hmem).1 (Nat.not_lt_of_le hc)

/-- **Of a text that only ASCII has, lower-casing is that of ASCII.** -/
theorem lowered_eq_iff {t : String} (ht : ∀ d ∈ t.toList, IsOnlyAscii d) (s : String) :
    lowered s = t ↔ loweredAscii s = t := by
  rw [← String.toList_inj, ← String.toList_inj, toList_lowered, loweredAscii, String.toList_ofList, lower,
    lowerAfter_eq_iff ht]

end PinTypes.Text
