import PinTypes.Pin.Value
import PinTypes.Proofs.Instant.RoundTrip

/-!
# `PinTypes.Proofs.Pin.Instants` — instants that come back

A pin for instants takes a string in either notation and sends the text of the instant. Whether that text
is accepted again depends on the year of the instant alone and is settled by the reader of instants
(`Instant.read_text`): with a year of four digits the same instant comes back, with any other year the
coercion fails, and where a value is needed all the same, the zero value stands in for the instant that was
sent (`PinValue.initial_toJson_instant`).

Strings of both notations reach such years. In the loose notation the year is written with a sign. In the
strict notation it has four digits, but the offset may carry the instant over the end of the year 9999 or
over the beginning of the year 0.

## Contents
- **Going out and coming in.** `coerce?_toJson_instant`, `coerce_toJson_instant`, `initial_toJson_instant`.
- **Main statement.** `coerce_dateTime_eq_ok_iff`, `coerce_toJson_dateTime_iff`, and
  `coerce_toJson_dateTime_ne` for both notations.
-/

namespace PinTypes.PinValue

/-! ## Going out and coming in -/

/-- What is sent for an instant is read as the instant, or not at all. -/
theorem coerce?_toJson_instant (t : Instant) :
    coerce? .dateTime (dateTime t).toJson =
      if 0 ≤ t.date.year ∧ t.date.year ≤ 9999 then some (dateTime t) else none := by
  show (Instant.read (String.ofList t.text).toList).map dateTime = _
  rw [String.toList_ofList, t.read_text]
  split <;> rfl

theorem coerce_toJson_instant (t : Instant) :
    coerce .dateTime (dateTime t).toJson =
      if 0 ≤ t.date.year ∧ t.date.year ≤ 9999 then .ok (dateTime t)
      else .error (.coercion "datetime" (dateTime t).toJson) := by
  rw [coerce, coerce?_toJson_instant]
  by_cases hyear : 0 ≤ t.date.year ∧ t.date.year ≤ 9999
  · simp only [if_pos hyear]
  · simp only [if_neg hyear]
    rfl

/-- Where a value is needed all the same, an instant that is not read is lost. -/
theorem initial_toJson_instant (t : Instant) :
    initial .dateTime (some (dateTime t).toJson) =
      if 0 ≤ t.date.year ∧ t.date.year ≤ 9999 then dateTime t else dateTime .epoch := by
  rw [initial, Option.bind_some, coerce?_toJson_instant]
  by_cases hyear : 0 ≤ t.date.year ∧ t.date.year ≤ 9999
  · simp only [if_pos hyear]
  · simp only [if_neg hyear]
    rfl

/-! ## Main statement -/

/-- The strings that are accepted are those that the reader of instants reads. -/
theorem coerce_dateTime_eq_ok_iff {s : String} {v : PinValue} :
    coerce .dateTime (.string s) = .ok v ↔ ∃ t, Instant.read s.toList = some t ∧ v = dateTime t := by
  have hread : coerce? .dateTime (.string s) = (Instant.read s.toList).map dateTime := rfl
  rw [coerce, hread]
  cases Instant.read s.toList with
  | none => exact iff_of_false nofun nofun
  | some t =>
    constructor
    · intro h
      exact ⟨t, rfl, (Except.ok.inj h).symm⟩
    · rintro ⟨_, ⟨⟩, rfl⟩
      rfl

/-- **An accepted instant comes back exactly if its year has four digits.** In whichever notation it was
    written, with whatever offset, fraction or leap second, what is sent for it is then accepted again and
    is the same instant; otherwise what is sent is refused. -/
theorem coerce_toJson_dateTime_iff {s : String} {v : PinValue}
    (h : coerce .dateTime (.string s) = .ok v) :
    ∃ t, Instant.read s.toList = some t ∧ v = dateTime t ∧
      (coerce .dateTime v.toJson = .ok v ↔ 0 ≤ t.date.year ∧ t.date.year ≤ 9999) ∧
      (¬ (0 ≤ t.date.year ∧ t.date.year ≤ 9999) →
        coerce .dateTime v.toJson = .error (.coercion "datetime" v.toJson)) := by
  obtain ⟨t, hread, rfl⟩ := coerce_dateTime_eq_ok_iff.mp h
  refine ⟨t, hread, rfl, ?_⟩
  rw [coerce_toJson_instant]
  by_cases hyear : 0 ≤ t.date.year ∧ t.date.year ≤ 9999
  · rw [if_pos hyear]
    exact ⟨iff_of_true rfl hyear, fun hnot => absurd hyear hnot⟩
  · rw [if_neg hyear]
    exact ⟨iff_of_false nofun hyear, fun _ => rfl⟩

/-- The leap second at the end of the year 2016, and a quarter of the second more. -/
def leapSecond : Instant :=
  ⟨⟨2016, 12, 31, by decide⟩, 23, 59, 60, 250000000, by decide⟩

/-- A leap second that was written with an offset and blanks around it comes back. -/
theorem coerce_toJson_dateTime_leapSecond :
    coerce .dateTime (.string " 2016-12-31T18:29:60.25-05:30 ") = .ok (dateTime leapSecond) ∧
      coerce .dateTime (dateTime leapSecond).toJson = .ok (dateTime leapSecond) := by
  have h : coerce .dateTime (.string " 2016-12-31T18:29:60.25-05:30 ") = .ok (dateTime leapSecond) :=
    coerce_dateTime_eq_ok_iff.mpr ⟨leapSecond, by decide, rfl⟩
  obtain ⟨t, -, heq, hback, -⟩ := coerce_toJson_dateTime_iff h
  obtain rfl := PinValue.dateTime.inj heq
  exact ⟨h, hback.mpr (by decide)⟩

/-- Half an hour into the year 10000. -/
def tenThousand : Instant :=
  ⟨⟨10000, 1, 1, by decide⟩, 0, 30, 0, 0, by decide⟩

/-- **An instant of the year 10000 is accepted in both notations, and what is sent for it is refused.** -/
theorem coerce_toJson_dateTime_ne :
    coerce .dateTime (.string "9999-12-31T23:30:00-01:00") = .ok (dateTime tenThousand) ∧
      coerce .dateTime (.string "+10000-01-01T00:30:00") = .ok (dateTime tenThousand) ∧
      coerce .dateTime (dateTime tenThousand).toJson ≠ .ok (dateTime tenThousand) := by
  refine ⟨?_, ?_, ?_⟩
  · exact coerce_dateTime_eq_ok_iff.mpr ⟨tenThousand, by decide, rfl⟩
  · exact coerce_dateTime_eq_ok_iff.mpr ⟨tenThousand, by decide, rfl⟩
  · rw [coerce_toJson_instant, if_neg (by decide)]
    exact nofun

end PinTypes.PinValue
