import PinTypes.Text.Casing

/-!
# `PinTypes.Text.Lowercase` — lower-casing

Lower-casing by the full Unicode mapping. Two letters need more than a table: capital I with a dot
becomes two characters, and capital sigma becomes the final small sigma at the end of a word.

## Contents
- **One letter.** `smallForm`.
- **Capital sigma.** `meetsCased`, `endsWord`.
- **Texts.** `lower` on lists of characters, `lowered` on strings; `lowerAscii`, `loweredAscii` for the
  mapping that leaves everything beyond ASCII alone.
-/

namespace PinTypes.Text

/-- The small form of a letter on its own; any other character stands for itself. -/
def smallForm (c : Char) : List Char :=
  if c = '\u0130' then ['i', '\u0307'] else [Char.ofNat (smallCode c.toNat)]

/-! ## Capital sigma -/

/-- Whether a cased character comes first once the characters that casing passes over are left out. -/
def meetsCased (cs : List Char) : Bool :=
  match cs.dropWhile isCaseIgnorable with
  | c :: _ => isCased c
  | [] => false

/-- Whether a letter between these two stretches of text ends a word: a cased character stands before
    it and none after it. The text before is given backwards. -/
def endsWord (before after : List Char) : Bool :=
  meetsCased before && !meetsCased after

/-- Small sigma, in its final form at the end of a word. -/
def smallSigma (before after : List Char) : Char :=
  if endsWord before after then '\u03C2' else '\u03C3'

/-! ## Texts -/

/-- Lower-cases a text that follows the characters `before`, which are given backwards. -/
def lowerAfter (before : List Char) : List Char → List Char
  | [] => []
  | c :: cs =>
    (if c = '\u03A3' then [smallSigma before cs] else smallForm c) ++ lowerAfter (c :: before) cs

/-- Lower-cases a text by the full Unicode mapping. -/
def lower (cs : List Char) : List Char := lowerAfter [] cs

/-- `lower` on strings. -/
def lowered (s : String) : String := String.ofList (lower s.toList)

/-- The small form of an ASCII capital; any other character stands for itself. -/
def smallAscii (c : Char) : Char :=
  if 'A' ≤ c && c ≤ 'Z' then Char.ofNat (c.toNat + 0x20) else c

/-- Lower-cases the ASCII letters of a text. -/
def lowerAscii (cs : List Char) : List Char := cs.map smallAscii

/-- `lowerAscii` on strings. -/
def loweredAscii (s : String) : String := String.ofList (lowerAscii s.toList)

@[simp] theorem lower_nil : lower [] = [] := rfl

theorem toList_lowered (s : String) : (lowered s).toList = lower s.toList := by
  simp [lowered]

end PinTypes.Text
