/-!
# `PinTypes.Text.CharRun` — sets of characters as runs of code points

A character property of Unicode is a set of some thousand code points that mostly come in runs: either
every code point between two ends, or every second one (capital and small letters alternate). A table
is a list of such runs.

## Contents
- **Runs.** `CharRun`, `CharRun.holds`.
- **Tables.** `inRuns`: whether some run of a list holds a code point.
-/

namespace PinTypes.Text

/-- The code points `first`, `first + step`, … up to `last`. -/
structure CharRun where
  first : Nat
  last : Nat
  step : Nat
deriving DecidableEq, Repr

/-- Whether a code point lies in the run. -/
def CharRun.holds (r : CharRun) (n : Nat) : Bool :=
  r.first ≤ n && n ≤ r.last && (n - r.first) % r.step == 0

/-- Whether a code point lies in some run of the table. -/
def inRuns (runs : List CharRun) (n : Nat) : Bool :=
  runs.any (·.holds n)

end PinTypes.Text
