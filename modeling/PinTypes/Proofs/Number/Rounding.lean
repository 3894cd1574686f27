import PinTypes.Number.Double
import Mathlib.Algebra.Group.Nat.Defs

/-!
# `PinTypes.Proofs.Number.Rounding` — rounding gives a canonical significand

The exponent that `Format.exponentFor` takes for a fraction is found from the bit lengths of numerator and
denominator, which tell the size of the fraction up to a factor of two. One comparison settles the rest:
under the exponent taken, the whole part of the scaled fraction has at most as many bits as the format
has precision, and exactly as many unless the exponent is the least one (`Format.exponentFor_bounds`).
Rounding to nearest can then only reach the next power of two, which `Format.round` renormalizes.

## Contents
- **Scaling.** `scaleDown_lt`, `le_scaleDown`: comparing bit lengths compares scaled fractions.
- **The exponent.** `Format.exponentFor_bounds`.
- **Rounding.** `Format.Fits`, `Format.round_fits`.
- **Doubles.** `Double.isFinite_ofInt`: a whole number of at most 64 bits is near a finite double.
-/

namespace PinTypes.Number

/-! ## Scaling -/

theorem twoTo_eq (e : Nat) : twoTo e = 2 ^ e := rfl

/-- The scaled fraction is below a power of two that the bit lengths leave room for. -/
theorem scaleDown_lt {num den a b p : Nat} {q : Int} (hnum : num < 2 ^ (a + 1)) (hden : 2 ^ b ≤ den)
    (h : (a : Int) + 1 ≤ p + b + q) :
    (scaleDown num den q).1 < 2 ^ p * (scaleDown num den q).2 := by
  have hexp : a + 1 + (-q).toNat ≤ p + (b + q.toNat) := by omega
  calc num * 2 ^ (-q).toNat
      < 2 ^ (a + 1) * 2 ^ (-q).toNat := Nat.mul_lt_mul_of_pos_right hnum (twoTo_pos _)
    _ = 2 ^ (a + 1 + (-q).toNat) := (Nat.pow_add 2 (a + 1) _).symm
    _ ≤ 2 ^ (p + (b + q.toNat)) := Nat.pow_le_pow_right (by decide) hexp
    _ = 2 ^ p * (2 ^ b * 2 ^ q.toNat) := by rw [Nat.pow_add 2 p, Nat.pow_add 2 b]
    _ ≤ 2 ^ p * (den * 2 ^ q.toNat) :=
        Nat.mul_le_mul_left _ (Nat.mul_le_mul_right _ hden)

/-- The scaled fraction reaches a power of two that the bit lengths guarantee. -/
theorem le_scaleDown {num den a b p : Nat} {q : Int} (hnum : 2 ^ a ≤ num) (hden : den < 2 ^ (b + 1))
    (h : (p : Int) + b + 1 + q ≤ a) :
    2 ^ p * (scaleDown num den q).2 ≤ (scaleDown num den q).1 := by
  have hexp : p + (b + 1 + q.toNat) ≤ a + (-q).toNat := by omega
  calc 2 ^ p * (den * 2 ^ q.toNat)
      ≤ 2 ^ p * (2 ^ (b + 1) * 2 ^ q.toNat) :=
        Nat.mul_le_mul_left _ (Nat.mul_le_mul_right _ (Nat.le_of_lt hden))
    _ = 2 ^ (p + (b + 1 + q.toNat)) := by rw [Nat.pow_add 2 p, Nat.pow_add 2 (b + 1)]
    _ ≤ 2 ^ (a + (-q).toNat) := Nat.pow_le_pow_right (by decide) hexp
    _ = 2 ^ a * 2 ^ (-q).toNat := Nat.pow_add 2 a _
    _ ≤ num * 2 ^ (-q).toNat := Nat.mul_le_mul_right _ hnum

/-- Under the next exponent the fraction is half as great. -/
theorem le_scaleDown_succ {num den p : Nat} {q : Int}
    (h : 2 ^ (p + 1) * (scaleDown num den q).2 ≤ (scaleDown num den q).1) :
    2 ^ p * (scaleDown num den (q + 1)).2 ≤ (scaleDown num den (q + 1)).1 := by
  simp only [scaleDown, twoTo_eq] at h ⊢
  rw [Nat.pow_succ] at h
  by_cases hq : 0 ≤ q
  · -- the power of two stands in the denominator, which doubles
    have hup : (q + 1).toNat = q.toNat + 1 := by omega
    have hdown : (-(q + 1)).toNat = 0 := by omega
    have hdown' : (-q).toNat = 0 := by omega
    rw [hup, hdown, Nat.pow_succ]
    rw [hdown'] at h
    calc 2 ^ p * (den * (2 ^ q.toNat * 2))
        = 2 ^ p * 2 * (den * 2 ^ q.toNat) := by ac_rfl
      _ ≤ num * 2 ^ 0 := h
  · -- the power of two stands in the numerator, which halves
    have hup : (q + 1).toNat = 0 := by omega
    have hup' : q.toNat = 0 := by omega
    have hdown : (-q).toNat = (-(q + 1)).toNat + 1 := by omega
    rw [hup]
    rw [hup', hdown, Nat.pow_succ] at h
    have hdouble : 2 ^ p * (den * 2 ^ 0) * 2 ≤ num * 2 ^ (-(q + 1)).toNat * 2 := by
      calc 2 ^ p * (den * 2 ^ 0) * 2
          = 2 ^ p * 2 * (den * 2 ^ 0) := by ac_rfl
        _ ≤ num * (2 ^ (-(q + 1)).toNat * 2) := h
        _ = num * 2 ^ (-(q + 1)).toNat * 2 := by ac_rfl
    exact Nat.le_of_mul_le_mul_right hdouble (by decide)

theorem scaleDown_pos {num den : Nat} (hden : 0 < den) (q : Int) : 0 < (scaleDown num den q).2 :=
  Nat.mul_pos hden (twoTo_pos _)

/-! ## The exponent -/

/-- The whole part of the fraction `num / den / 2 ^ q`. -/
def wholeUnder (num den : Nat) (q : Int) : Nat := (scaleDown num den q).1 / (scaleDown num den q).2

theorem wholeUnder_lt {num den a b p : Nat} {q : Int} (hnum : num < 2 ^ (a + 1)) (hden : 2 ^ b ≤ den)
    (h : (a : Int) + 1 ≤ p + b + q) : wholeUnder num den q < 2 ^ p :=
  (Nat.div_lt_iff_lt_mul (scaleDown_pos (Nat.lt_of_lt_of_le (twoTo_pos b) hden) q)).mpr
    (scaleDown_lt hnum hden h)

theorem le_wholeUnder {num den p : Nat} {q : Int} (hden : 0 < den) :
    2 ^ p ≤ wholeUnder num den q ↔
      2 ^ p * (scaleDown num den q).2 ≤ (scaleDown num den q).1 :=
  Nat.le_div_iff_mul_le (scaleDown_pos hden q)

/-- **The exponent fits.** Under the exponent taken the whole part has at most as many bits as the format
    has precision, and exactly as many unless the exponent is the least one. The exponent is at most one
    above the guess from the bit lengths. -/
theorem Format.exponentFor_bounds (f : Format) (hp : 0 < f.precision) {num den : Nat}
    (hnum : num ≠ 0) (hden : den ≠ 0) :
    let q := f.exponentFor num den
    wholeUnder num den q < 2 ^ f.precision ∧
      (2 ^ (f.precision - 1) ≤ wholeUnder num den q ∨ q = f.leastExponent) ∧
      f.leastExponent ≤ q ∧
      q ≤ max f.leastExponent ((num.log2 : Int) - den.log2 - f.precision + 1) := by
  have hnumLow : 2 ^ num.log2 ≤ num := Nat.log2_self_le hnum
  have hnumHigh : num < 2 ^ (num.log2 + 1) := Nat.lt_log2_self
  have hdenLow : 2 ^ den.log2 ≤ den := Nat.log2_self_le hden
  have hdenHigh : den < 2 ^ (den.log2 + 1) := Nat.lt_log2_self
  have hdenPos : 0 < den := Nat.pos_of_ne_zero hden
  simp only [exponentFor]
  generalize hguess : (num.log2 : Int) - den.log2 - f.precision = guess
  -- a guess that is not below the least exponent reaches the lower power of two
  have hreach : f.leastExponent ≤ guess → 2 ^ (f.precision - 1) ≤ wholeUnder num den guess := by
    intro _
    exact (le_wholeUnder hdenPos).mpr (le_scaleDown hnumLow hdenHigh (by omega))
  split
  case isTrue hlt =>
    refine ⟨hlt, ?_, by omega, by omega⟩
    rcases Int.le_total f.leastExponent guess with hle | hle
    · rw [Int.max_eq_right hle]
      exact Or.inl (hreach hle)
    · exact Or.inr (Int.max_eq_left hle)
  case isFalse hlt =>
    have hbig : 2 ^ f.precision ≤ wholeUnder num den (max f.leastExponent guess) := Nat.le_of_not_lt hlt
    -- had the guess been raised to the least exponent, the whole part would be small enough
    have hle : f.leastExponent ≤ guess := by
      refine Int.not_lt.mp fun hraised => ?_
      have hsmall : wholeUnder num den (max f.leastExponent guess) < 2 ^ f.precision :=
        wholeUnder_lt hnumHigh hdenLow (by omega)
      exact absurd hbig (Nat.not_le_of_lt hsmall)
    rw [Int.max_eq_right hle] at hbig ⊢
    refine ⟨wholeUnder_lt hnumHigh hdenLow (by omega), Or.inl ?_, by omega, by omega⟩
    have hprecision : f.precision - 1 + 1 = f.precision := Nat.sub_add_cancel hp
    rw [le_wholeUnder hdenPos]
    apply le_scaleDown_succ
    rw [hprecision]
    exact (le_wholeUnder hdenPos).mp hbig

/-! ## Rounding -/

/-- Significand and exponent in the canonical form of a format, with no bound from above on the
    exponent. -/
def Format.Fits (f : Format) (m : Nat) (q : Int) : Prop :=
  m < 2 ^ f.precision ∧ f.leastExponent ≤ q ∧ (2 ^ (f.precision - 1) ≤ m ∨ q = f.leastExponent)

theorem div_le_nearestEven (num den : Nat) : num / den ≤ nearestEven num den := by
  unfold nearestEven
  simp only
  split <;> omega

/-- **Rounding is canonical**, and its exponent at most one above the exponent taken. -/
theorem Format.round_fits (f : Format) (hp : 0 < f.precision) {num den : Nat}
    (hnum : num ≠ 0) (hden : den ≠ 0) :
    f.Fits (f.round num den).1 (f.round num den).2 ∧
      (f.round num den).2 ≤ f.exponentFor num den + 1 := by
  obtain ⟨hhigh, hlow, hleast, _⟩ := f.exponentFor_bounds hp hnum hden
  simp only [Format.round]
  generalize f.exponentFor num den = q at *
  have hnear : wholeUnder num den q ≤ nearestEven (scaleDown num den q).1 (scaleDown num den q).2 :=
    div_le_nearestEven _ _
  have hnext : nearestEven (scaleDown num den q).1 (scaleDown num den q).2 ≤ wholeUnder num den q + 1 :=
    nearestEven_le _ _
  split
  case isTrue =>
    -- a carry: half of the next power of two under the next exponent
    have hhalf : 2 ^ (f.precision - 1) < 2 ^ f.precision :=
      Nat.pow_lt_pow_right (by decide) (Nat.sub_lt hp (by decide))
    exact ⟨⟨hhalf, by omega, Or.inl (Nat.le_refl _)⟩, Int.le_refl _⟩
  case isFalse hne =>
    rw [twoTo_eq] at hne
    refine ⟨⟨by omega, hleast, ?_⟩, by omega⟩
    rcases hlow with hlow | hlow
    · exact Or.inl (Nat.le_trans hlow hnear)
    · exact Or.inr hlow

end PinTypes.Number

namespace PinTypes.Double

open PinTypes.Number

/-! ## Doubles -/

/-- **A whole number of at most 64 bits is near a finite double.** -/
theorem isFinite_ofInt {n : Int} (h : n.natAbs < 2 ^ 64) : (ofInt n).isFinite = true := by
  unfold ofInt ofRatio
  split
  case isTrue => rfl
  case isFalse hne =>
    obtain ⟨⟨hhigh, hleast, hlow⟩, hround⟩ :=
      binary64.round_fits (by decide) hne (Nat.one_ne_zero)
    obtain ⟨_, _, _, hexp⟩ := binary64.exponentFor_bounds (by decide) hne (Nat.one_ne_zero)
    have hlog : n.natAbs.log2 < 64 := (Nat.log2_lt hne).mpr h
    have hcanonical : Canonical (binary64.round n.natAbs 1).1 (binary64.round n.natAbs 1).2 := by
      refine ⟨hhigh, hleast, ?_, hlow⟩
      have hden : Nat.log2 1 = 0 := by decide
      simp only [hden, binary64] at hexp hround ⊢
      omega
    simp only [dif_pos hcanonical, isFinite_finite]

end PinTypes.Double
