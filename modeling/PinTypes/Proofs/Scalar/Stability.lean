import PinTypes.Identifier
import PinTypes.Proofs.Scalar.Exchange

/-!
# `PinTypes.Proofs.Scalar.Stability` — one exchange settles a scalar

A scalar that is sent and received again may come back as another one: a whole double as an integer, a
double that is not finite as null. `Settled` is what remains without these. It is said of the scalar alone,
and two facts tie it to JSON, each of them exact: a scalar comes back as it was exactly if it is settled
(`exchanged_eq_self_iff`), and the settled scalars are those that JSON values stand for
(`received_iff_settled`). So whatever JSON value a scalar was received from, every further exchange leaves
it alone, and with it all that is read off it.

## Contents
- **Exchange.** `exchanged`, `Settled`, `ofDouble_eq_float_iff`.
- **What comes back.** `received_iff_settled`, `exchanged_eq_self_iff`, `settled_ofJson`.
- **Two ways to send.** `written_eq_toJson`, `toValue_eq_toJson`.
- **Main statement.** `exchange_settles`.
-/

namespace PinTypes.Scalar

open Json (Writable written)

/-! ## Exchange -/

/-- What a scalar comes back as when it is sent. -/
def exchanged (s : Scalar) : Scalar := ofJson s.toJson

/-- The scalar is no double that is infinite, not a number, or a whole number of 64 bits. -/
def Settled : Scalar → Prop
  | float (.finite x) => x.integer?.bind Number.toInt64? = none
  | float _ => False
  | _ => True

theorem ofDouble_eq_float_iff {x : Double.Finite} :
    ofDouble (.finite x) = float (.finite x) ↔ x.integer?.bind Number.toInt64? = none := by
  cases hwhole : x.integer?.bind Number.toInt64? with
  | some i => simp [ofDouble, hwhole]
  | none => simp [ofDouble, hwhole]

/-! ## What comes back -/

/-- **The settled scalars** are those that JSON values stand for. -/
theorem received_iff_settled {s : Scalar} : s.Received ↔ s.Settled := by
  cases s with
  | null => exact iff_of_true ⟨.null, rfl⟩ trivial
  | bool b => exact iff_of_true ⟨.bool b, rfl⟩ trivial
  | int i => exact iff_of_true ⟨.ofInt64 i, ofJson_ofInt64 i⟩ trivial
  | string t => exact iff_of_true ⟨.string t, rfl⟩ trivial
  | float x =>
    rw [received_float_iff]
    cases x with
    | nan | infinity _ =>
      constructor
      · rintro ⟨_, hfinite, _⟩
        cases hfinite
      · exact False.elim
    | finite y =>
      constructor
      · rintro ⟨_, hfinite, hfloat⟩
        cases hfinite
        exact ofDouble_eq_float_iff.mp hfloat
      · intro hsettled
        exact ⟨y, rfl, ofDouble_eq_float_iff.mpr hsettled⟩

/-- **An exchange leaves alone** what is settled, and nothing else. -/
theorem exchanged_eq_self_iff {s : Scalar} : s.exchanged = s ↔ s.Settled := by
  constructor
  · intro hback
    exact received_iff_settled.mp ⟨s.toJson, hback⟩
  · intro hsettled
    exact (received_iff_settled.mpr hsettled).ofJson_toJson

theorem settled_ofJson (x : Json) : (ofJson x).Settled :=
  received_iff_settled.mp ⟨x, rfl⟩

/-- A whole double comes back as an integer. -/
example : (float (.ofInt (-2))).exchanged = int (-2) := by decide

/-! ## Two ways to send -/

theorem written_eq_toJson (s : Scalar) : written s = s.toJson := by
  cases s <;> rfl

/-- As a value, too: no scalar is sent as an object, so there are no members to put in order. -/
theorem toValue_eq_toJson (s : Scalar) : Writable.toValue s = s.toJson := by
  rw [Writable.toValue, written_eq_toJson]
  cases s with
  | float x => cases x <;> rfl
  | _ => rfl

/-! ## Main statement -/

/-- **One exchange settles a scalar.** Whatever a JSON value is, the scalar that it stands for comes back as
    it was, with the same key, the same label at every position and the same reading as a position. What
    comes back for any scalar is settled; and a scalar comes back as it was exactly if it is settled itself,
    that is, if it is neither a whole double within 64 bits nor a double that is not finite. The JSON that
    is sent for a scalar is the one that is written for it. -/
theorem exchange_settles :
    (∀ x : Json, (ofJson x).exchanged = ofJson x ∧
      (ofJson x).exchanged.key = (ofJson x).key ∧
      (∀ position, Identifier.labelFor (ofJson x).exchanged position =
        Identifier.labelFor (ofJson x) position) ∧
      (ofJson x).exchanged.ordinal? = (ofJson x).ordinal?) ∧
    (∀ s : Scalar, s.exchanged.Settled ∧ (s.exchanged = s ↔ s.Settled)) ∧
    ∀ s : Scalar, written s = s.toJson ∧ Writable.toValue s = s.toJson := by
  refine ⟨?_, ?_, ?_⟩
  · intro x
    have hsame : (ofJson x).exchanged = ofJson x := exchanged_eq_self_iff.mpr (settled_ofJson x)
    rw [hsame]
    exact ⟨rfl, rfl, fun _ => rfl, rfl⟩
  · intro s
    exact ⟨settled_ofJson s.toJson, exchanged_eq_self_iff⟩
  · intro s
    exact ⟨written_eq_toJson s, toValue_eq_toJson s⟩

end PinTypes.Scalar
