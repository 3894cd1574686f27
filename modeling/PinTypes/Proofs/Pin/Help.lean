import PinTypes.Pin.Help
import PinTypes.Proofs.Text.Blank
import PinTypes.Proofs.Text.Lines

/-!
# `PinTypes.Proofs.Pin.Help` — what cleaning takes from a help text

A help text is cleaned line by line. `Cleaned` says what may become of a line, one rule for each way in which it
can end: an ellipsis stays, a period goes, and of any other line the blanks go alone. The rules leave no choice
(`Cleaned.eq_withoutPeriod`) and leave no line out (`exists_cleaned`), so what is proved of each rule holds of
the lines that are cleaned.

Blanks are taken before the period and not after it. A blank in front of the period is therefore what a line
ends with afterwards, and there is no other way in which a line can come to end with a blank
(`Cleaned.endsBlank_iff`).

## Contents
- **One line.** `Cleaned`, `cleaned_iff`.
- **What is taken.** `Cleaned.exists_taken`, `Cleaned.endsBlank_iff`.
- **Texts.** `cutAtFeeds_cleanHelpChars`.
- **Main statement.** `cleanHelp_line_for_line`; `endsBlank_cleanHelp`, a text with a blank at its end once it is
  cleaned.
-/

namespace PinTypes

open PinTypes.Text (isBlank trimEnd lines joinLines cutAtFeeds LinesOf)

/-! ## One line -/

/-- What a line is cleaned to. -/
inductive Cleaned : List Char → List Char → Prop
  /-- An ellipsis at the end stays, without the blanks behind it. -/
  | ellipsis (body : List Char) {blanks : List Char} (hblanks : ∀ c ∈ blanks, isBlank c = true) :
      Cleaned (body ++ ['.', '.', '.'] ++ blanks) (body ++ ['.', '.', '.'])
  /-- Any other period at the end goes, with the blanks behind it. -/
  | period {body blanks : List Char} (hblanks : ∀ c ∈ blanks, isBlank c = true)
      (hbody : ¬ ['.', '.'] <:+ body) : Cleaned (body ++ ['.'] ++ blanks) body
  /-- If there is no period, the blanks go. -/
  | bare {body blanks : List Char} (hblanks : ∀ c ∈ blanks, isBlank c = true)
      (hlast : ∀ c, body.getLast? = some c → isBlank c = false ∧ c ≠ '.') :
      Cleaned (body ++ blanks) body

theorem not_isBlank_period : isBlank '.' = false := by decide

theorem ne_period_of_blank {c : Char} (h : isBlank c = true) : c ≠ '.' := by
  rintro rfl
  rw [not_isBlank_period] at h
  cases h

theorem withoutPeriod_of_ellipsis {line body : List Char} (h : trimEnd line = body ++ ['.', '.', '.']) :
    withoutPeriod line = body ++ ['.', '.', '.'] := by
  have hsuffix : ['.', '.', '.'].isSuffixOf (body ++ ['.', '.', '.']) = true :=
    List.isSuffixOf_iff_suffix.mpr (List.suffix_append body _)
  simp only [withoutPeriod, h, hsuffix, if_true]

theorem withoutPeriod_of_period {line body : List Char} (h : trimEnd line = body ++ ['.'])
    (hbody : ¬ ['.', '.'] <:+ body) : withoutPeriod line = body := by
  have hsuffix : ['.', '.', '.'].isSuffixOf (body ++ ['.']) = false := by
    rw [← Bool.not_eq_true, List.isSuffixOf_iff_suffix]
    rintro ⟨front, hfront⟩
    have hbehind : (front ++ ['.', '.']) ++ ['.'] = body ++ ['.'] := by
      rw [← hfront, List.append_assoc]
      rfl
    exact hbody ⟨front, List.append_cancel_right hbehind⟩
  simp only [withoutPeriod, h, hsuffix, Bool.false_eq_true, if_false, List.getLast?_concat, if_true,
    List.dropLast_concat]

theorem withoutPeriod_of_bare {line body : List Char} (h : trimEnd line = body)
    (hlast : body.getLast? ≠ some '.') : withoutPeriod line = body := by
  have hsuffix : ['.', '.', '.'].isSuffixOf body = false := by
    rw [← Bool.not_eq_true, List.isSuffixOf_iff_suffix]
    rintro ⟨front, rfl⟩
    exact hlast (by simp)
  simp only [withoutPeriod, h, hsuffix, Bool.false_eq_true, if_false, if_neg hlast]

/-- **The rules leave no choice.** -/
theorem Cleaned.eq_withoutPeriod {line kept : List Char} (h : Cleaned line kept) :
    kept = withoutPeriod line := by
  cases h with
  | ellipsis body hblanks =>
    refine (withoutPeriod_of_ellipsis ?_).symm
    rw [Text.trimEnd_append_of_blank hblanks]
    have htrim : trimEnd ((body ++ ['.', '.']) ++ ['.']) = (body ++ ['.', '.']) ++ ['.'] :=
      Text.trimEnd_concat not_isBlank_period _
    simpa using htrim
  | period hblanks hbody =>
    refine (withoutPeriod_of_period ?_ hbody).symm
    rw [Text.trimEnd_append_of_blank hblanks, Text.trimEnd_concat not_isBlank_period]
  | bare hblanks hlast =>
    have htrim : trimEnd kept = kept := by
      rcases List.eq_nil_or_concat kept with rfl | ⟨front, c, rfl⟩
      · rfl
      · rw [List.concat_eq_append] at hlast ⊢
        exact Text.trimEnd_concat (hlast c List.getLast?_concat).1 front
    refine (withoutPeriod_of_bare ?_ fun hperiod => (hlast '.' hperiod).2 rfl).symm
    rw [Text.trimEnd_append_of_blank hblanks, htrim]

/-- **The rules leave no line out.** -/
theorem exists_cleaned (line : List Char) : ∃ kept, Cleaned line kept := by
  obtain ⟨blanks, hline, hblanks⟩ := Text.exists_behind_trimEnd line
  have hend (c : Char) (hc : (trimEnd line).getLast? = some c) : isBlank c = false :=
    Text.not_isBlank_of_getLast?_trimEnd hc
  rw [hline]
  generalize trimEnd line = body at hend
  by_cases hperiod : body.getLast? = some '.'
  · obtain ⟨front, rfl⟩ := List.getLast?_eq_some_iff.mp hperiod
    by_cases hellipsis : ['.', '.'] <:+ front
    · obtain ⟨first, rfl⟩ := hellipsis
      exact ⟨_, by simpa using Cleaned.ellipsis first hblanks⟩
    · exact ⟨front, .period hblanks hellipsis⟩
  · refine ⟨body, .bare hblanks fun c hc => ⟨hend c hc, ?_⟩⟩
    rintro rfl
    exact hperiod hc

theorem cleaned_iff {line kept : List Char} : Cleaned line kept ↔ kept = withoutPeriod line := by
  constructor
  · exact Cleaned.eq_withoutPeriod
  · rintro rfl
    obtain ⟨kept, h⟩ := exists_cleaned line
    exact h.eq_withoutPeriod ▸ h

/-! ## What is taken -/

/-- The text ends with a blank. -/
def EndsBlank (cs : List Char) : Prop := ∃ c, cs.getLast? = some c ∧ isBlank c = true

/-- The line ends with a period that has a blank in front of it, blanks behind the period left out of
    account. -/
def SpacedPeriod (line : List Char) : Prop :=
  ∃ front c blanks, line = front ++ [c] ++ ['.'] ++ blanks ∧ isBlank c = true ∧
    ∀ d ∈ blanks, isBlank d = true

theorem count_period_of_blank {blanks : List Char} (h : ∀ c ∈ blanks, isBlank c = true) :
    blanks.count '.' = 0 := by
  rw [List.count_eq_zero]
  exact fun hmem => ne_period_of_blank (h _ hmem) rfl

/-- **Blanks are taken from the end, and one period at most.** -/
theorem Cleaned.exists_taken {line kept : List Char} (h : Cleaned line kept) :
    ∃ taken, line = kept ++ taken ∧ (∀ c ∈ taken, isBlank c = true ∨ c = '.') ∧ taken.count '.' ≤ 1 := by
  cases h with
  | @ellipsis body blanks hblanks =>
    exact ⟨blanks, rfl, fun c hc => Or.inl (hblanks c hc), by simp [count_period_of_blank hblanks]⟩
  | @period _ blanks hblanks _ =>
    refine ⟨['.'] ++ blanks, List.append_assoc _ _ _, ?_, by simp [count_period_of_blank hblanks]⟩
    intro c hc
    rcases List.mem_append.mp hc with hc | hc
    · exact Or.inr (List.mem_singleton.mp hc)
    · exact Or.inl (hblanks c hc)
  | @bare _ blanks hblanks _ =>
    exact ⟨blanks, rfl, fun c hc => Or.inl (hblanks c hc), by simp [count_period_of_blank hblanks]⟩

/-- **When a line ends with a blank once it is cleaned:** there was a blank in front of its period. -/
theorem Cleaned.endsBlank_iff {line kept : List Char} (h : Cleaned line kept) :
    EndsBlank kept ↔ SpacedPeriod line := by
  constructor
  · rintro ⟨c, hc, hblank⟩
    cases h with
    | ellipsis body _ =>
      have hperiod : c = '.' := by simpa using hc.symm
      exact absurd hperiod (ne_period_of_blank hblank)
    | @period _ blanks hblanks _ =>
      obtain ⟨front, rfl⟩ := List.getLast?_eq_some_iff.mp hc
      exact ⟨front, c, blanks, rfl, hblank, hblanks⟩
    | bare _ hlast =>
      rw [(hlast c hc).1] at hblank
      cases hblank
  · rintro ⟨front, c, blanks, rfl, hblank, hblanks⟩
    have hbody : ¬ ['.', '.'] <:+ front ++ [c] := by
      rintro ⟨first, hfirst⟩
      have hperiod : c = '.' := by simpa using (congrArg List.getLast? hfirst).symm
      exact ne_period_of_blank hblank hperiod
    -- the line is cleaned by the second rule, to what ends with the blank
    have hkept : kept = front ++ [c] :=
      h.eq_withoutPeriod.trans (Cleaned.period hblanks hbody).eq_withoutPeriod.symm
    exact ⟨c, by rw [hkept, List.getLast?_concat], hblank⟩

/-! ## Texts -/

theorem feed_notMem_withoutPeriod {line : List Char} (h : '\n' ∉ line) : '\n' ∉ withoutPeriod line := by
  obtain ⟨taken, hline, -, -⟩ := (cleaned_iff.mpr rfl : Cleaned line _).exists_taken
  rw [hline] at h
  exact fun hmem => h (List.mem_append_left taken hmem)

/-- The lines of the cleaned text are the cleaned lines of the text. -/
theorem cutAtFeeds_cleanHelpChars {text : List Char} (h : lines text ≠ []) :
    cutAtFeeds (cleanHelpChars text) = (lines text).map withoutPeriod := by
  rw [cleanHelpChars, Text.cutAtFeeds_joinLines]
  · simpa using h
  · intro line hline
    obtain ⟨given, hgiven, rfl⟩ := List.mem_map.mp hline
    exact feed_notMem_withoutPeriod ((Text.linesOf_lines text).feed_notMem given hgiven)

/-! ## Main statement -/

/-- **Help texts are cleaned line for line.** What is left of a text are its lines, each cleaned, with a line
    feed between any two, and they can be told apart again. Of a line blanks and at most one period are
    taken from the end, and nothing else. A line ends with a blank then exactly if it ended with a
    period that had a blank in front of it; so none does exactly if the text has no such line. -/
theorem cleanHelp_line_for_line (text : String) :
    LinesOf text.toList (lines text.toList) ∧
    (cleanHelp text).toList = joinLines ((lines text.toList).map withoutPeriod) ∧
    (lines text.toList ≠ [] →
      cutAtFeeds (cleanHelp text).toList = (lines text.toList).map withoutPeriod) ∧
    (∀ line ∈ lines text.toList,
      Cleaned line (withoutPeriod line) ∧
      (∃ taken, line = withoutPeriod line ++ taken ∧ (∀ c ∈ taken, isBlank c = true ∨ c = '.') ∧
        taken.count '.' ≤ 1) ∧
      (EndsBlank (withoutPeriod line) ↔ SpacedPeriod line)) ∧
    ((∀ kept ∈ (lines text.toList).map withoutPeriod, ¬ EndsBlank kept) ↔
      ∀ line ∈ lines text.toList, ¬ SpacedPeriod line) := by
  have hcleaned (line : List Char) : Cleaned line (withoutPeriod line) := cleaned_iff.mpr rfl
  have htext : (cleanHelp text).toList = cleanHelpChars text.toList := String.toList_ofList
  refine ⟨Text.linesOf_lines _, htext, ?_, ?_, ?_⟩
  · rw [htext]
    exact cutAtFeeds_cleanHelpChars
  · intro line _
    exact ⟨hcleaned line, (hcleaned line).exists_taken, (hcleaned line).endsBlank_iff⟩
  · rw [List.forall_mem_map]
    exact forall₂_congr fun line _ => not_congr (hcleaned line).endsBlank_iff

/-- A text of three lines: an ellipsis stays, of two periods one does, and the blank in front of the last
    period is what its line ends with. -/
theorem cleanHelp_line_for_line_seed :
    cutAtFeeds (cleanHelp "Wait... \r\nTwo..\nThe seed .").toList =
      ["Wait...".toList, "Two.".toList, "The seed ".toList] ∧
    SpacedPeriod "The seed .".toList ∧ EndsBlank "The seed ".toList := by
  obtain ⟨-, -, htold, hlines, -⟩ := cleanHelp_line_for_line "Wait... \r\nTwo..\nThe seed ."
  have hspaced : SpacedPeriod "The seed .".toList := ⟨"The seed".toList, ' ', [], by decide, by decide, by simp⟩
  exact ⟨htold (by decide), hspaced, (hlines "The seed .".toList (by decide)).2.2.mpr hspaced⟩

/-- A cleaned text can end with a blank. -/
theorem endsBlank_cleanHelp :
    cleanHelp "Seed ." = "Seed " ∧
      ¬ ∀ kept ∈ cutAtFeeds (cleanHelp "Seed .").toList, ¬ EndsBlank kept := by
  refine ⟨by decide, fun h => ?_⟩
  exact h "Seed ".toList (by decide) ⟨' ', by decide, by decide⟩

end PinTypes
