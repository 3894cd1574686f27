/-!
# `PinTypes.Text.Lines` — cutting text into lines

A line ends at a line feed, or at the end of the text if that last line is not empty. A carriage return
just before the line feed belongs to the line end; one at the end of the text does not.

## Contents
- **Cutting.** `lines` on lists of characters: `cutAtFeeds`, then `linesOfPieces`.
- **Joining.** `joinLines` puts a line feed between any two lines.
-/

namespace PinTypes.Text

/-- The pieces between the line feeds, last piece included even if empty; never an empty list. -/
def cutAtFeeds : List Char → List (List Char)
  | [] => [[]]
  | c :: cs =>
    if c = '\n' then [] :: cutAtFeeds cs
    else match cutAtFeeds cs with
      | piece :: pieces => (c :: piece) :: pieces
      | [] => [[c]]

/-- The line without one carriage return at its end. -/
def dropReturn (line : List Char) : List Char :=
  if line.getLast? = some '\r' then line.dropLast else line

/-- The lines of the pieces of a text: only a piece with a line feed behind it loses a carriage return,
    and an empty last piece is no line. -/
def linesOfPieces : List (List Char) → List (List Char)
  | [] => []
  | [[]] => []
  | [piece] => [piece]
  | piece :: pieces => dropReturn piece :: linesOfPieces pieces

/-- The lines of a text. -/
def lines (cs : List Char) : List (List Char) := linesOfPieces (cutAtFeeds cs)

/-- The lines with a line feed between any two. -/
def joinLines : List (List Char) → List Char
  | [] => []
  | [line] => line
  | line :: rest => line ++ '\n' :: joinLines rest

@[simp] theorem lines_nil : lines [] = [] := rfl

theorem cutAtFeeds_ne_nil (cs : List Char) : cutAtFeeds cs ≠ [] := by
  cases cs with
  | nil => simp [cutAtFeeds]
  | cons c cs =>
    unfold cutAtFeeds
    split
    · simp
    · split <;> simp

end PinTypes.Text
