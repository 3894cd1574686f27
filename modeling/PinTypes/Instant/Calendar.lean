/-!
# `PinTypes.Instant.Calendar` — days of the calendar and instants

Dates of the Gregorian calendar, extended to all years, and instants of universal time to the nanosecond.
Second 60 of any minute is a leap second.

## Contents
- **Dates.** `isLeapYear`, `daysIn`, `Date`, `Date.next`, `Date.previous`.
- **Instants.** `Instant`, `Instant.ofFields`, `Instant.epoch`.
- **Offsets.** `Instant.minusMinutes`.
-/

namespace PinTypes

/-! ## Dates -/

/-- Whether the year has a 29th of February. -/
def isLeapYear (year : Int) : Bool :=
  year % 4 == 0 && (year % 100 != 0 || year % 400 == 0)

/-- The number of days in a month. -/
def daysIn (year : Int) (month : Nat) : Nat :=
  if month = 2 then if isLeapYear year then 29 else 28
  else if month = 4 ∨ month = 6 ∨ month = 9 ∨ month = 11 then 30
  else 31

theorem daysIn_pos (year : Int) (month : Nat) : 1 ≤ daysIn year month := by
  unfold daysIn
  repeat' split
  all_goals omega

/-- A day of the calendar. -/
structure Date where
  year : Int
  month : Nat
  day : Nat
  valid : 1 ≤ month ∧ month ≤ 12 ∧ 1 ≤ day ∧ day ≤ daysIn year month
deriving DecidableEq

/-- The day after. -/
def Date.next (d : Date) : Date :=
  if h : d.day < daysIn d.year d.month then
    ⟨d.year, d.month, d.day + 1, d.valid.1, d.valid.2.1, by omega, h⟩
  else if h : d.month < 12 then
    ⟨d.year, d.month + 1, 1, by omega, h, Nat.le_refl 1, daysIn_pos ..⟩
  else ⟨d.year + 1, 1, 1, by omega, by omega, Nat.le_refl 1, daysIn_pos ..⟩

/-- The day before. -/
def Date.previous (d : Date) : Date :=
  if h : 1 < d.day then
    ⟨d.year, d.month, d.day - 1, d.valid.1, d.valid.2.1, by omega,
      Nat.le_trans (Nat.sub_le ..) d.valid.2.2.2⟩
  else if h : 1 < d.month then
    ⟨d.year, d.month - 1, daysIn d.year (d.month - 1), by omega,
      Nat.le_trans (Nat.sub_le ..) d.valid.2.1, daysIn_pos .., Nat.le_refl _⟩
  else ⟨d.year - 1, 12, 31, by omega, by omega, by omega, by simp [daysIn]⟩

/-! ## Instants -/

/-- An instant of universal time. -/
structure Instant where
  date : Date
  hour : Nat
  minute : Nat
  second : Nat
  nanosecond : Nat
  inDay : hour < 24 ∧ minute < 60 ∧ second ≤ 60 ∧ nanosecond < 1000000000
deriving DecidableEq

/-- The instant with the given fields, if they make one. -/
def Instant.ofFields (year : Int) (month day hour minute second nanosecond : Nat) :
    Option Instant :=
  if hd : 1 ≤ month ∧ month ≤ 12 ∧ 1 ≤ day ∧ day ≤ daysIn year month then
    if ht : hour < 24 ∧ minute < 60 ∧ second ≤ 60 ∧ nanosecond < 1000000000 then
      some ⟨⟨year, month, day, hd⟩, hour, minute, second, nanosecond, ht⟩
    else none
  else none

/-- The first instant of the year 1970. -/
def Instant.epoch : Instant :=
  ⟨⟨1970, 1, 1, by decide⟩, 0, 0, 0, 0, by decide⟩

/-! ## Offsets -/

/-- The instant so many minutes earlier; less than a day either way. A leap second stays one. -/
def Instant.minusMinutes (t : Instant) (minutes : Int) : Instant :=
  let total := (t.hour : Int) * 60 + t.minute - minutes
  let date := if total < 0 then t.date.previous else if total < 1440 then t.date else t.date.next
  let inside := (total % 1440).toNat
  ⟨date, inside / 60, inside % 60, t.second, t.nanosecond, by omega, by omega, t.inDay.2.2⟩

/-- Fields taken from an instant make that instant. -/
theorem Instant.ofFields_self (t : Instant) :
    ofFields t.date.year t.date.month t.date.day t.hour t.minute t.second t.nanosecond = some t := by
  simp only [ofFields, dif_pos t.date.valid, dif_pos t.inDay]

end PinTypes
