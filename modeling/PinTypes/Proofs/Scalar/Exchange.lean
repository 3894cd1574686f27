import PinTypes.Proofs.Number.Rounding
import PinTypes.Scalar.Exchange

/-!
# `PinTypes.Proofs.Scalar.Exchange` — scalars that come back

A scalar that is sent and received again need not be the same: a double that is not finite is sent as
null, and a whole double comes back as an integer. The scalars that JSON values stand for, the *received*
ones, are free of both, because a JSON number is always near a finite double and whole doubles become
integers as they come in. So what was received once is never changed by another exchange.

## Contents
- **Numbers.** `Json.Number.exists_toDouble`: the double of a JSON number is finite.
- **Received scalars.** `Scalar.Received`, `Scalar.received_float_iff`.
- **Exchange.** `Scalar.Received.ofJson_toJson`.
-/

namespace PinTypes

/-! ## Numbers -/

theorem Json.IntegerRange.natAbs_lt {n : Int} (h : Json.IntegerRange n) : n.natAbs < 2 ^ 64 := by
  obtain ⟨hlow, hhigh⟩ := h
  simp only [Number.int64Limit, Number.nat64Limit] at hlow hhigh
  omega

/-- The double nearest to a JSON number is finite. -/
theorem Json.Number.exists_toDouble (n : Json.Number) : ∃ x, n.toDouble = .finite x := by
  cases n with
  | float x => exact ⟨x, rfl⟩
  | integer n inRange =>
    have hfinite := Double.isFinite_ofInt inRange.natAbs_lt
    rw [Json.Number.toDouble]
    cases hx : Double.ofInt n with
    | finite x => exact ⟨x, rfl⟩
    | nan => rw [hx] at hfinite; cases hfinite
    | infinity => rw [hx] at hfinite; cases hfinite

namespace Scalar

/-! ## Received scalars -/

/-- Scalars that some JSON value stands for. -/
def Received (s : Scalar) : Prop := ∃ x : Json, ofJson x = s

/-- A double becomes an integer or stays as it is. -/
theorem ofDouble_cases (x : Double) : (∃ i, ofDouble x = int i) ∨ ofDouble x = float x := by
  cases x with
  | nan => exact Or.inr rfl
  | infinity => exact Or.inr rfl
  | finite y =>
    cases hwhole : y.integer?.bind Number.toInt64? with
    | some i => exact Or.inl ⟨i, by simp [ofDouble, hwhole]⟩
    | none => exact Or.inr (by simp [ofDouble, hwhole])

@[simp] theorem ofJson_ofInt64 (i : Int64) : ofJson (.ofInt64 i) = int i := by
  simp [ofJson, Json.ofInt64, Json.Number.int64?, Number.toInt64?_toInt]

/-- A double is received if and only if it is finite and no integer. -/
theorem received_float_iff {x : Double} :
    Received (float x) ↔ ∃ y, x = .finite y ∧ ofDouble (.finite y) = float (.finite y) := by
  constructor
  · rintro ⟨j, hj⟩
    cases j with
    | number n =>
      obtain ⟨y, hy⟩ := n.exists_toDouble
      rw [ofJson, hy] at hj
      split at hj
      · cases hj
      · rcases ofDouble_cases (.finite y) with ⟨i, hint⟩ | hfloat
        · rw [hint] at hj
          cases hj
        · rw [hfloat] at hj
          cases hj
          exact ⟨y, rfl, hfloat⟩
    | _ => cases hj
  · rintro ⟨y, rfl, hfloat⟩
    exact ⟨.number (.float y), hfloat⟩

/-! ## Exchange -/

/-- **A received scalar comes back.** -/
theorem Received.ofJson_toJson {s : Scalar} (h : s.Received) : ofJson s.toJson = s := by
  cases s with
  | null => rfl
  | bool b => rfl
  | int i => exact ofJson_ofInt64 i
  | string s => rfl
  | float x =>
    obtain ⟨y, rfl, hfloat⟩ := received_float_iff.mp h
    exact hfloat

end Scalar

end PinTypes
