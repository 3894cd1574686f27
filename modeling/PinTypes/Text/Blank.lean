/-!
# `PinTypes.Text.Blank` — blank characters and trimming

The blank characters are those with the Unicode property `White_Space`. Trimming is stated on lists of
characters, where it is `dropWhile` at one end or at both; `trimmed` is the same on strings.

## Contents
- **The class.** `isBlank`.
- **Trimming.** `trimStart`, `trimEnd`, `trim` on lists; `trimmed` on strings, `isBlankText` for a
  string with nothing but blanks.
-/

namespace PinTypes.Text

/-- Whether the character has the property `White_Space`. -/
def isBlank (c : Char) : Bool :=
  let n := c.toNat
  (9 ≤ n && n ≤ 13) || n == 0x20 || n == 0x85 || n == 0xA0 || n == 0x1680 ||
    (0x2000 ≤ n && n ≤ 0x200A) || n == 0x2028 || n == 0x2029 || n == 0x202F || n == 0x205F ||
    n == 0x3000

/-! ## Trimming -/

/-- The text without the blanks it starts with. -/
def trimStart (cs : List Char) : List Char := cs.dropWhile isBlank

/-- The text without the blanks it ends with. -/
def trimEnd (cs : List Char) : List Char := (cs.reverse.dropWhile isBlank).reverse

/-- The text without the blanks at either end. -/
def trim (cs : List Char) : List Char := trimEnd (trimStart cs)

/-- `trim` on strings. -/
def trimmed (s : String) : String := String.ofList (trim s.toList)

/-- Whether nothing but blanks is in the string. -/
def isBlankText (s : String) : Bool := s.toList.all isBlank

@[simp] theorem trimStart_nil : trimStart [] = [] := rfl

@[simp] theorem trim_nil : trim [] = [] := rfl

theorem toList_trimmed (s : String) : (trimmed s).toList = trim s.toList := by
  simp [trimmed]

end PinTypes.Text
