import PinTypes.Text.Lines

/-!
# `PinTypes.Proofs.Text.Lines` — which lines a text has

A line ends at a line feed, a carriage return before it included, and the last one need not end. `LinesOf` says
so of a text and its lines, one rule for each way in which a line can end. The lines that are cut are those
of the rules and no others (`linesOf_iff`): in one direction by induction on the rules, in the other by
cutting the text at its first line feed.

Lines without a line feed in them can be put together and told apart again (`cutAtFeeds_joinLines`).

## Contents
- **Line feeds.** `cutAtFeeds_eq_splitOn`, `joinLines_eq_intercalate`, `cutAtFeeds_joinLines`.
- **Cutting off a line.** `lines_of_notMem`, `lines_append_feed`.
- **The lines of a text.** `LinesOf`, `linesOf_iff`, `LinesOf.feed_notMem`.
-/

namespace PinTypes.Text

/-! ## Line feeds -/

theorem cutAtFeeds_eq_splitOn (cs : List Char) : cutAtFeeds cs = cs.splitOn '\n' := by
  induction cs with
  | nil => rfl
  | cons c cs ih =>
    rw [cutAtFeeds, ih, List.splitOn_cons_eq_if_modifyHead]
    by_cases hc : c = '\n'
    · simp [hc]
    · cases hpieces : cs.splitOn '\n' with
      | nil => exact absurd hpieces (List.splitOn_ne_nil '\n' cs)
      | cons piece pieces => simp [hc]

theorem joinLines_eq_intercalate (ls : List (List Char)) : joinLines ls = ['\n'].intercalate ls := by
  induction ls with
  | nil => rfl
  | cons line ls ih =>
    cases ls with
    | nil => simp [joinLines, List.intercalate]
    | cons next rest =>
      rw [joinLines, ih]
      · simp [List.intercalate]
      · exact List.cons_ne_nil next rest

/-- **Lines that are put together can be told apart again.** -/
theorem cutAtFeeds_joinLines {ls : List (List Char)} (hne : ls ≠ []) (h : ∀ line ∈ ls, '\n' ∉ line) :
    cutAtFeeds (joinLines ls) = ls := by
  rw [cutAtFeeds_eq_splitOn, joinLines_eq_intercalate]
  exact List.splitOn_intercalate '\n' h hne

/-! ## Cutting off a line -/

theorem linesOfPieces_cons {pieces : List (List Char)} (h : pieces ≠ []) (piece : List Char) :
    linesOfPieces (piece :: pieces) = dropReturn piece :: linesOfPieces pieces := by
  cases pieces with
  | nil => exact absurd rfl h
  | cons next rest => cases piece <;> rfl

/-- A text without a line feed is one line, unless it is empty. -/
theorem lines_of_notMem {line : List Char} (hne : line ≠ []) (h : '\n' ∉ line) : lines line = [line] := by
  have hpieces : cutAtFeeds line = [line] := by
    rw [cutAtFeeds_eq_splitOn, List.splitOn_eq_singleton h]
  rw [lines, hpieces]
  cases line with
  | nil => exact absurd rfl hne
  | cons c cs => rfl

/-- What stands before the first line feed is the first line, but for a carriage return at its end. -/
theorem lines_append_feed {piece : List Char} (h : '\n' ∉ piece) (rest : List Char) :
    lines (piece ++ '\n' :: rest) = dropReturn piece :: lines rest := by
  have hpieces : cutAtFeeds (piece ++ '\n' :: rest) = piece :: cutAtFeeds rest := by
    rw [cutAtFeeds_eq_splitOn, cutAtFeeds_eq_splitOn, List.splitOn_append_cons_self_of_not_mem h]
  rw [lines, hpieces, linesOfPieces_cons (cutAtFeeds_ne_nil rest), lines]

theorem dropReturn_of_ne {line : List Char} (h : line.getLast? ≠ some '\r') : dropReturn line = line := by
  rw [dropReturn, if_neg h]

@[simp] theorem dropReturn_concat (line : List Char) : dropReturn (line ++ ['\r']) = line := by
  rw [dropReturn, if_pos List.getLast?_concat, List.dropLast_concat]

/-! ## The lines of a text -/

/-- The list is that of the lines of the text. -/
inductive LinesOf : List Char → List (List Char) → Prop
  | empty : LinesOf [] []
  /-- The last line does not end. -/
  | unended {line : List Char} (hne : line ≠ []) (hfeed : '\n' ∉ line) : LinesOf line [line]
  /-- The line ends at a line feed with no carriage return before it. -/
  | feed {line rest : List Char} {ls : List (List Char)} (hfeed : '\n' ∉ line)
      (hreturn : line.getLast? ≠ some '\r') (hrest : LinesOf rest ls) :
      LinesOf (line ++ '\n' :: rest) (line :: ls)
  /-- The line ends at a carriage return and a line feed. -/
  | returnFeed {line rest : List Char} {ls : List (List Char)} (hfeed : '\n' ∉ line)
      (hrest : LinesOf rest ls) : LinesOf (line ++ '\r' :: '\n' :: rest) (line :: ls)

theorem LinesOf.eq_lines {text : List Char} {ls : List (List Char)} (h : LinesOf text ls) :
    ls = lines text := by
  induction h with
  | empty => rfl
  | unended hne hfeed => rw [lines_of_notMem hne hfeed]
  | feed hfeed hreturn _ ih => rw [lines_append_feed hfeed, dropReturn_of_ne hreturn, ih]
  | @returnFeed line rest _ hfeed _ ih =>
    have hpiece : '\n' ∉ line ++ ['\r'] := by simp [hfeed]
    rw [List.append_cons line '\r', lines_append_feed hpiece, dropReturn_concat, ih]

/-- By induction on the length: the first line is cut off, and the rest is shorter. -/
theorem linesOf_lines (text : List Char) : LinesOf text (lines text) := by
  by_cases hmem : '\n' ∈ text
  · obtain ⟨piece, rest, rfl, hpiece⟩ := List.eq_append_cons_of_mem hmem
    have hrest : LinesOf rest (lines rest) := linesOf_lines rest
    rw [lines_append_feed hpiece]
    by_cases hreturn : piece.getLast? = some '\r'
    · obtain ⟨line, rfl⟩ := List.getLast?_eq_some_iff.mp hreturn
      have hline : '\n' ∉ line := fun h => hpiece (List.mem_append_left _ h)
      rw [dropReturn_concat, ← List.append_cons]
      exact .returnFeed hline hrest
    · rw [dropReturn_of_ne hreturn]
      exact .feed hpiece hreturn hrest
  · by_cases hne : text = []
    · rw [hne]
      exact .empty
    · rw [lines_of_notMem hne hmem]
      exact .unended hne hmem
termination_by text.length

/-- **The lines that are cut are the lines of the text.** -/
theorem linesOf_iff {text : List Char} {ls : List (List Char)} : LinesOf text ls ↔ ls = lines text := by
  constructor
  · exact LinesOf.eq_lines
  · rintro rfl
    exact linesOf_lines text

/-- There is no line feed in a line. -/
theorem LinesOf.feed_notMem {text : List Char} {ls : List (List Char)} (h : LinesOf text ls) :
    ∀ line ∈ ls, '\n' ∉ line := by
  induction h with
  | empty => exact fun _ hline => absurd hline List.not_mem_nil
  | unended _ hfeed => exact List.forall_mem_singleton.mpr hfeed
  | feed hfeed _ _ ih => exact List.forall_mem_cons.mpr ⟨hfeed, ih⟩
  | returnFeed hfeed _ ih => exact List.forall_mem_cons.mpr ⟨hfeed, ih⟩

end PinTypes.Text
