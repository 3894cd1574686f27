import PinTypes.Instant.Printer
import PinTypes.Instant.Reader
import PinTypes.Proofs.Number.Digits
import PinTypes.Proofs.Text.Blank

/-!
# `PinTypes.Proofs.Instant.RoundTrip` — which instants are read back

The text of an instant ends in an offset. The loose notation has none, so it never reads such a text: it
gets through all the fields, and then the offset is left (`readLoose_text`). What remains is the strict
notation. It reads the fields one by one and gets each back, as long as the year is written with four digits
(`readStrict_text`); a year that is written with a sign does not even begin as the notation wants it.

So the text of an instant is read back exactly if its year has four digits (`read_text`), although both
notations reach instants of other years: the strict one by an offset at either end, the loose one by a sign.

## Contents
- **Numbers.** `exactly_padded`, `upTo_append`, `upTo_padded`, `readShort_padded`.
- **Fractions and years.** `readFraction_fractionText`, `readYear_yearText`.
- **Texts of instants.** `text_eq`, `readStrict_text`, `readStrict_text_of_not`, `readLoose_text`.
- **Years that are reached.** `year_of_readStrict`, `year_of_readLoose`, `year_of_read`.
- **Main statement.** `read_text`.
-/

namespace PinTypes.Instant

open PinTypes.Number (ofDigits ofDigits_lt ofDigits_padded length_padded isDigit_of_mem_padded padded
  padded_ne_nil tenTo)

/-! ## Numbers -/

/-- A run of digits of the right length is read to its end. -/
theorem exactly_append {ds : List Char} (hds : ∀ c ∈ ds, c.isDigit = true) (rest : List Char) :
    exactly ds.length (ds ++ rest) = some (ofDigits ds, rest) := by
  have htake : (ds ++ rest).take ds.length = ds := List.take_left
  have hdrop : (ds ++ rest).drop ds.length = rest := List.drop_left
  rw [exactly, htake, hdrop]
  exact if_pos ⟨rfl, List.all_eq_true.mpr hds⟩

theorem exactly_padded {width n : Nat} (hwidth : 0 < width) (hn : n < 10 ^ width) (rest : List Char) :
    exactly width (padded width n ++ rest) = some (n, rest) := by
  have hdigits : ∀ c ∈ padded width n, c.isDigit = true := fun _ => isDigit_of_mem_padded
  have hread := exactly_append hdigits rest
  rwa [length_padded hwidth hn, ofDigits_padded] at hread

/-- A run of digits is read to its end if there is room for it, and no digit follows that there is room
    for. -/
theorem upTo_append {width : Nat} {ds rest : List Char} (hds : ∀ c ∈ ds, c.isDigit = true) (hne : ds ≠ [])
    (hroom : ds.length ≤ width) (hstop : (rest.take (width - ds.length)).takeWhile Char.isDigit = []) :
    upTo width (ds ++ rest) = some (ofDigits ds, rest) := by
  have hrun : ((ds ++ rest).take width).takeWhile Char.isDigit = ds := by
    rw [List.take_append, List.take_of_length_le hroom, List.takeWhile_append_of_pos hds, hstop,
      List.append_nil]
  have hdrop : (ds ++ rest).drop ds.length = rest := List.drop_left
  rw [upTo, hrun, hdrop]
  exact if_neg hne

theorem upTo_padded {width n : Nat} (hwidth : 0 < width) (hn : n < 10 ^ width) (rest : List Char) :
    upTo width (padded width n ++ rest) = some (n, rest) := by
  have hlen := length_padded hwidth hn
  have hread : upTo width (padded width n ++ rest) = some (ofDigits (padded width n), rest) := by
    refine upTo_append (fun _ => isDigit_of_mem_padded) (padded_ne_nil width n) (Nat.le_of_eq hlen) ?_
    rw [hlen, Nat.sub_self]
    rfl
  rwa [ofDigits_padded] at hread

/-- A text that starts with a number starts with no blank. -/
theorem trimStart_padded (width n : Nat) (rest : List Char) :
    Text.trimStart (padded width n ++ rest) = padded width n ++ rest := by
  rw [Text.trimStart_eq_self_iff, List.head?_append_of_ne_nil _ (padded_ne_nil width n)]
  intro c hc
  exact Text.not_isBlank_of_isDigit (isDigit_of_mem_padded (List.mem_of_head? hc))

theorem readShort_padded {n : Nat} (hn : n < 100) (rest : List Char) :
    readShort (padded 2 n ++ rest) = some (n, rest) := by
  rw [readShort, trimStart_padded]
  exact upTo_padded (by decide) hn rest

theorem expect_cons {allowed : List Char} {c : Char} (h : c ∈ allowed) (cs : List Char) :
    expect allowed (c :: cs) = some cs := if_pos h

/-! ## Fractions and years -/

/-- The offset that the text of an instant ends in. -/
def utcOffset : List Char := ['+', '0', '0', ':', '0', '0']

theorem readFraction_point {width n : Nat} (hwidth : 0 < width) (hle : width ≤ 9) (hn : n < 10 ^ width) :
    readFraction ('.' :: (padded width n ++ utcOffset)) = some (n * tenTo (9 - width), utcOffset) := by
  have hdigits : ∀ c ∈ padded width n, c.isDigit = true := fun _ => isDigit_of_mem_padded
  have hlen := length_padded hwidth hn
  have hrun : (padded width n ++ utcOffset).takeWhile Char.isDigit = padded width n := by
    rw [List.takeWhile_append_of_pos hdigits]
    exact List.append_nil _
  have hrest : (padded width n ++ utcOffset).dropWhile Char.isDigit = utcOffset := by
    rw [List.dropWhile_append_of_pos hdigits]
    rfl
  have hkept : (padded width n).take 9 = padded width n := List.take_of_length_le (by omega)
  rw [readFraction, hrun, hrest, hkept, hlen, ofDigits_padded]
  exact if_neg (padded_ne_nil width n)

/-- A fraction is read back from its thousands. -/
theorem readFraction_fractionText {n : Nat} (hn : n < 1000000000) :
    readFraction (fractionText n ++ utcOffset) = some (n, utcOffset) := by
  unfold fractionText
  by_cases hzero : n = 0
  · rw [if_pos hzero, hzero]
    rfl
  · rw [if_neg hzero]
    by_cases hmilli : n % 1000000 = 0
    · rw [if_pos hmilli, List.cons_append, readFraction_point (by decide) (by decide) (by omega)]
      have hback : n / 1000000 * tenTo (9 - 3) = n := Nat.div_mul_cancel (Nat.dvd_of_mod_eq_zero hmilli)
      rw [hback]
    · rw [if_neg hmilli]
      by_cases hmicro : n % 1000 = 0
      · rw [if_pos hmicro, List.cons_append, readFraction_point (by decide) (by decide) (by omega)]
        have hback : n / 1000 * tenTo (9 - 6) = n := Nat.div_mul_cancel (Nat.dvd_of_mod_eq_zero hmicro)
        rw [hback]
      · rw [if_neg hmicro, List.cons_append, readFraction_point (by decide) (by decide) hn]
        have hback : n * tenTo (9 - 9) = n := Nat.mul_one n
        rw [hback]

/-- A year without a sign has up to four digits. -/
theorem readYear_of_isDigit {c : Char} (hc : c.isDigit = true) (cs : List Char) :
    readYear (c :: cs) = (upTo 4 (c :: cs)).map fun (n, rest) => ((n : Int), rest) := by
  have htrim : Text.trimStart (c :: cs) = c :: cs := by
    rw [Text.trimStart_eq_self_iff]
    intro d hd
    rw [← Option.some.inj hd]
    exact Text.not_isBlank_of_isDigit hc
  rw [readYear, htrim]
  split
  · -- a digit is neither sign
    rename_i hsign
    rw [(List.cons.inj hsign).1] at hc
    cases hc
  · rename_i hsign
    rw [(List.cons.inj hsign).1] at hc
    cases hc
  · rfl

/-- Behind a sign a year has all the digits that there are. -/
theorem upTo_length_padded (width n : Nat) (rest : List Char) :
    upTo (padded width n ++ '-' :: rest).length (padded width n ++ '-' :: rest) = some (n, '-' :: rest) := by
  have hread : upTo (padded width n ++ '-' :: rest).length (padded width n ++ '-' :: rest) =
      some (ofDigits (padded width n), '-' :: rest) := by
    refine upTo_append (fun _ => isDigit_of_mem_padded) (padded_ne_nil width n) ?_ ?_
    · rw [List.length_append]
      exact Nat.le_add_right _ _
    · rw [List.length_append, Nat.add_sub_cancel_left, List.take_length]
      rfl
  rwa [ofDigits_padded] at hread

/-- The year before a dash is read back from the loose notation, whatever year it is. -/
theorem readYear_yearText (year : Int) (rest : List Char) :
    readYear (yearText year ++ '-' :: rest) = some (year, '-' :: rest) := by
  unfold yearText
  by_cases hyear : 0 ≤ year ∧ year ≤ 9999
  · have hread : upTo 4 (padded 4 year.toNat ++ '-' :: rest) = some (year.toNat, '-' :: rest) :=
      upTo_padded (by decide) (by omega) _
    obtain ⟨d, ds, hpadded⟩ := List.exists_cons_of_ne_nil (padded_ne_nil 4 year.toNat)
    have hd : d.isDigit = true := isDigit_of_mem_padded (hpadded ▸ List.mem_cons_self)
    rw [hpadded] at hread
    rw [if_pos hyear, hpadded, List.cons_append, readYear_of_isDigit hd, ← List.cons_append, hread]
    show some ((year.toNat : Int), '-' :: rest) = some (year, '-' :: rest)
    rw [Int.toNat_of_nonneg hyear.1]
  · have hread := upTo_length_padded 4 year.natAbs rest
    rw [if_neg hyear, List.cons_append]
    by_cases hneg : year < 0
    · have habs : -(year.natAbs : Int) = year := by omega
      rw [if_pos hneg]
      show (upTo _ (padded 4 year.natAbs ++ '-' :: rest)).map _ = _
      rw [hread]
      show some (-(year.natAbs : Int), '-' :: rest) = some (year, '-' :: rest)
      rw [habs]
    · have habs : (year.natAbs : Int) = year := by omega
      rw [if_neg hneg]
      show (upTo _ (padded 4 year.natAbs ++ '-' :: rest)).map _ = _
      rw [hread]
      show some ((year.natAbs : Int), '-' :: rest) = some (year, '-' :: rest)
      rw [habs]

/-! ## Texts of instants -/

/-- What stands behind the year in the text of an instant. -/
def behindYear (t : Instant) : List Char :=
  '-' :: (padded 2 t.date.month ++ '-' :: (padded 2 t.date.day ++ 'T' :: (padded 2 t.hour ++
    ':' :: (padded 2 t.minute ++ ':' :: (padded 2 t.second ++ (fractionText t.nanosecond ++ utcOffset))))))

theorem text_eq (t : Instant) : t.text = yearText t.date.year ++ t.behindYear := by
  simp [text, behindYear, utcOffset]

theorem fields_lt (t : Instant) :
    t.date.month < 100 ∧ t.date.day < 100 ∧ t.hour < 100 ∧ t.minute < 100 ∧ t.second < 100 := by
  obtain ⟨-, hmonth, -, hday⟩ := t.date.valid
  obtain ⟨hhour, hminute, hsecond, -⟩ := t.inDay
  have hdays : daysIn t.date.year t.date.month ≤ 31 := by
    unfold daysIn
    repeat' split
    all_goals omega
  omega

theorem readStrict_text {t : Instant} (hyear : 0 ≤ t.date.year ∧ t.date.year ≤ 9999) :
    readStrict t.text = some (t.minusMinutes 0) := by
  have hy : yearText t.date.year = padded 4 t.date.year.toNat := if_pos hyear
  have hyear4 : t.date.year.toNat < 10 ^ 4 := by omega
  have hcast : (t.date.year.toNat : Int) = t.date.year := Int.toNat_of_nonneg hyear.1
  obtain ⟨hmonth, hday, hhour, hminute, hsecond⟩ := t.fields_lt
  have htwo {n : Nat} (h : n < 100) (rest : List Char) : exactly 2 (padded 2 n ++ rest) = some (n, rest) :=
    exactly_padded (by decide) h rest
  have hoffset : readOffset utcOffset = some 0 := rfl
  rw [text_eq, hy, behindYear, readStrict, exactly_padded (by decide) hyear4]
  simp only [Option.bind_eq_bind, Option.bind_some, expect_cons, List.mem_cons, true_or, htwo hmonth,
    htwo hday, htwo hhour, htwo hminute, htwo hsecond, readFraction_fractionText t.inDay.2.2.2, hoffset,
    hcast, ofFields_self]
  rfl

/-- No minutes earlier is the same instant. -/
theorem minusMinutes_zero (t : Instant) : t.minusMinutes 0 = t := by
  obtain ⟨date, hour, minute, second, nanosecond, hhour, hminute, hrest⟩ := t
  have hstart : ¬ ((hour : Int) * 60 + minute - 0 < 0) := by omega
  have hend : (hour : Int) * 60 + minute - 0 < 1440 := by omega
  simp only [minusMinutes, if_neg hstart, if_pos hend, Instant.mk.injEq, true_and, and_true]
  omega

/-- A number does not start with a sign. -/
theorem exactly_of_not_isDigit {width : Nat} {c : Char} (hc : c.isDigit = false) (cs : List Char) :
    exactly (width + 1) (c :: cs) = none := by
  rw [exactly, List.take_succ_cons]
  apply if_neg
  rintro ⟨-, hall⟩
  rw [List.all_cons, hc] at hall
  cases hall

theorem readStrict_text_of_not {t : Instant} (hyear : ¬ (0 ≤ t.date.year ∧ t.date.year ≤ 9999)) :
    readStrict t.text = none := by
  have hy : yearText t.date.year =
      (if t.date.year < 0 then '-' else '+') :: padded 4 t.date.year.natAbs := if_neg hyear
  have hsign : (if t.date.year < 0 then '-' else '+').isDigit = false := by
    split <;> rfl
  rw [text_eq, hy, List.cons_append, readStrict, exactly_of_not_isDigit hsign]
  rfl

/-- **The loose notation has no room for an offset.** -/
theorem readLoose_text (t : Instant) : readLoose t.text = none := by
  obtain ⟨hmonth, hday, hhour, hminute, hsecond⟩ := t.fields_lt
  have hoffset : utcOffset ≠ [] := List.cons_ne_nil _ _
  rw [text_eq, behindYear, readLoose, readYear_yearText]
  simp only [Option.bind_eq_bind, Option.bind_some, expect_cons, List.mem_cons, true_or,
    readShort_padded hmonth, readShort_padded hday, readShort_padded hhour, readShort_padded hminute,
    readShort_padded hsecond, readFraction_fractionText t.inDay.2.2.2]
  exact if_neg fun h => hoffset h.1

/-! ## Years that are reached -/

theorem exactly_lt {width n : Nat} {cs rest : List Char} (h : exactly width cs = some (n, rest)) :
    n < 10 ^ width := by
  simp only [exactly] at h
  split at h
  · rename_i hrun
    have hlt := ofDigits_lt (List.all_eq_true.mp hrun.2)
    cases h
    rwa [hrun.1] at hlt
  · cases h

theorem year_of_ofFields {year : Int} {month day hour minute second nanosecond : Nat} {t : Instant}
    (h : ofFields year month day hour minute second nanosecond = some t) : t.date.year = year := by
  unfold ofFields at h
  split at h
  · split at h
    · cases h
      rfl
    · cases h
  · cases h

theorem year_previous (d : Date) : d.previous.year = d.year ∨ d.previous.year = d.year - 1 := by
  unfold Date.previous
  split
  · exact Or.inl rfl
  · split
    · exact Or.inl rfl
    · exact Or.inr rfl

theorem year_next (d : Date) : d.next.year = d.year ∨ d.next.year = d.year + 1 := by
  unfold Date.next
  split
  · exact Or.inl rfl
  · split
    · exact Or.inl rfl
    · exact Or.inr rfl

/-- An offset moves the date by at most a day, and so the year by at most one. -/
theorem year_minusMinutes (t : Instant) (minutes : Int) :
    t.date.year - 1 ≤ (t.minusMinutes minutes).date.year ∧
      (t.minusMinutes minutes).date.year ≤ t.date.year + 1 := by
  have hprevious := year_previous t.date
  have hnext := year_next t.date
  simp only [minusMinutes]
  repeat' split
  all_goals omega

/-- The strict notation reaches no more than one year beyond those that it can write. -/
theorem year_of_readStrict {cs : List Char} {t : Instant} (h : readStrict cs = some t) :
    -1 ≤ t.date.year ∧ t.date.year ≤ 10000 := by
  simp only [readStrict, Option.bind_eq_bind, Option.bind_eq_some_iff] at h
  obtain ⟨⟨year, _⟩, hyear, _, -, ⟨month, _⟩, -, _, -, ⟨day, _⟩, -, _, -, ⟨hour, _⟩, -, _, -, ⟨minute, _⟩, -,
    _, -, ⟨second, _⟩, -, ⟨nanosecond, _⟩, -, offset, -, u, hu, ht⟩ := h
  obtain rfl := Option.some.inj ht
  have hlt : year < 10 ^ 4 := exactly_lt hyear
  have hwritten : u.date.year = (year : Int) := year_of_ofFields hu
  have hmoved := year_minusMinutes u offset
  omega

/-- The loose notation reaches no year beyond its bounds. -/
theorem year_of_readLoose {cs : List Char} {t : Instant} (h : readLoose cs = some t) :
    firstYear ≤ t.date.year ∧ t.date.year ≤ lastYear := by
  simp only [readLoose, Option.bind_eq_bind, Option.bind_eq_some_iff] at h
  obtain ⟨⟨year, _⟩, -, _, -, ⟨month, _⟩, -, _, -, ⟨day, _⟩, -, _, -, ⟨hour, _⟩, -, _, -, ⟨minute, _⟩, -,
    _, -, ⟨second, _⟩, -, ⟨nanosecond, _⟩, -, ht⟩ := h
  split at ht
  · rename_i hrange
    rw [year_of_ofFields ht]
    exact hrange.2
  · cases ht

/-- **The years that are read are bounded** by those of the loose notation. -/
theorem year_of_read {cs : List Char} {t : Instant} (h : read cs = some t) :
    firstYear ≤ t.date.year ∧ t.date.year ≤ lastYear := by
  simp only [read, Option.or_eq_some_iff] at h
  rcases h with hstrict | ⟨-, hloose⟩
  · have hfirst : firstYear ≤ -1 := by decide
    have hlast : 10000 ≤ lastYear := by decide
    obtain ⟨hlower, hupper⟩ := year_of_readStrict hstrict
    exact ⟨Int.le_trans hfirst hlower, Int.le_trans hupper hlast⟩
  · exact year_of_readLoose hloose

/-! ## Main statement -/

theorem trimStart_text (t : Instant) : Text.trimStart t.text = t.text := by
  rw [text_eq]
  unfold yearText
  split
  · exact trimStart_padded 4 _ _
  · split <;> rfl

/-- There are no blanks around the text of an instant. -/
theorem trim_text (t : Instant) : Text.trim t.text = t.text := by
  obtain ⟨front, hfront⟩ : ∃ front, t.text = front ++ ['0'] :=
    ⟨yearText t.date.year ++ '-' :: padded 2 t.date.month ++ '-' :: padded 2 t.date.day ++
      'T' :: padded 2 t.hour ++ ':' :: padded 2 t.minute ++ ':' :: padded 2 t.second ++
      fractionText t.nanosecond ++ ['+', '0', '0', ':', '0'], by simp [text]⟩
  rw [Text.trim, trimStart_text, hfront]
  exact Text.trimEnd_concat (by decide) front

/-- **Instants of years with four digits are read back,** and those of all other years are not read. -/
theorem read_text (t : Instant) :
    read t.text = if 0 ≤ t.date.year ∧ t.date.year ≤ 9999 then some t else none := by
  have hread : read t.text = readStrict t.text := by
    simp only [read, trim_text, readLoose_text, Option.or_none]
  rw [hread]
  by_cases hyear : 0 ≤ t.date.year ∧ t.date.year ≤ 9999
  · rw [if_pos hyear, readStrict_text hyear, minusMinutes_zero]
  · rw [if_neg hyear, readStrict_text_of_not hyear]

end PinTypes.Instant
