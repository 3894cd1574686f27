import PinTypes.Text.Blank
import PinTypes.Text.Lines

/-!
# `PinTypes.Pin.Help` — help texts

Help texts come with a period at the end of most lines, which the editor does not show.

## Contents
- **One line.** `withoutPeriod`.
- **Texts.** `cleanHelp`.
-/

namespace PinTypes

open PinTypes.Text (trimEnd lines joinLines)

/-- The line without the blanks at its end and then without one period there; three periods stay. -/
def withoutPeriod (line : List Char) : List Char :=
  let line := trimEnd line
  if ['.', '.', '.'].isSuffixOf line then line
  else if line.getLast? = some '.' then line.dropLast
  else line

/-- The text with every line cleaned. -/
def cleanHelpChars (text : List Char) : List Char := joinLines ((lines text).map withoutPeriod)

/-- `cleanHelpChars` on strings. -/
def cleanHelp (text : String) : String := String.ofList (cleanHelpChars text.toList)

end PinTypes
