import Mathlib.Data.List.Chain
import Mathlib.Data.List.DropRight
import PinTypes.Proofs.Identifier

/-!
# `PinTypes.Proofs.Identifier.Words` — an identifier is the words of a text

The *words* of a text are its longest runs of letters and digits. An identifier is made in three passes, and
none of them touches a word: masking puts underscores where no letter or digit was, collapsing drops
underscores next to others, stripping drops underscores at the ends (`words_masked`, `words_collapsed`,
`words_stripped`). What the passes do change is what stands between words. At the end that is a single
underscore, and nothing stands before the first word or behind the last one: the text is *tidy*
(`tidy_identifierChars`).

A tidy text is its words with one underscore between any two (`Tidy.joined_words`). So the words alone tell
the identifier, and an identifier is made into itself.

## Contents
- **Words.** `words`, `joined`, `words_cons_of_foreign`, `words_cons`, `flatten_words`.
- **What the passes keep.** `words_masked`, `words_collapsed`, `words_stripped`, `words_identifierChars`.
- **Tidy texts.** `Tidy`, `tidy_identifierChars`, `Tidy.joined_words`, `identifierChars_eq_joined`,
  `identifierChars_eq_self_iff`.
- **Main statement.** `ofText_joins_words`.
-/

namespace PinTypes.Identifier

open PinTypes.Text (isAlphanumeric)

/-! ## Words -/

/-- The words of a text, in order: the text is split at each character that is neither letter nor digit, and
    empty pieces are left out. -/
def words (cs : List Char) : List (List Char) :=
  (cs.splitOnP (!isAlphanumeric ·)).filter (!·.isEmpty)

/-- Words with one underscore between any two. -/
def joined (ws : List (List Char)) : List Char := ['_'].intercalate ws

@[simp] theorem words_nil : words [] = [] := by simp [words, List.splitOnP_nil]

@[simp] theorem joined_nil : joined [] = [] := rfl

@[simp] theorem joined_singleton (w : List Char) : joined [w] = w := by simp [joined]

theorem joined_cons {ws : List (List Char)} (hne : ws ≠ []) (w : List Char) :
    joined (w :: ws) = w ++ '_' :: joined ws := by
  obtain ⟨v, vs, rfl⟩ := List.exists_cons_of_ne_nil hne
  simp [joined, List.intercalate_cons_cons]

theorem joined_modifyHead {ws : List (List Char)} (hne : ws ≠ []) (c : Char) :
    joined (ws.modifyHead (c :: ·)) = c :: joined ws := by
  obtain ⟨v, vs, rfl⟩ := List.exists_cons_of_ne_nil hne
  cases vs with
  | nil => simp
  | cons w ws => simp [joined_cons]

variable {c : Char} {cs ds : List Char}

theorem words_cons_of_foreign (hc : isAlphanumeric c = false) (cs : List Char) :
    words (c :: cs) = words cs := by
  simp [words, List.splitOnP_cons_eq_if_modifyHead, hc]

/-- Whether a text begins with a word. -/
def startsWord (cs : List Char) : Bool := cs.head?.any isAlphanumeric

/-- A letter or digit is a word of its own, unless a word follows at once, which it then begins. -/
theorem words_cons (hc : isAlphanumeric c = true) (cs : List Char) :
    words (c :: cs) =
      if startsWord cs then (words cs).modifyHead (c :: ·) else [c] :: words cs := by
  cases cs with
  | nil => simp [words, startsWord, List.splitOnP_cons_eq_if_modifyHead, List.splitOnP_nil, hc]
  | cons d ds =>
    obtain ⟨piece, pieces, hsplit⟩ :=
      List.exists_cons_of_ne_nil (List.splitOnP_ne_nil (!isAlphanumeric ·) ds)
    by_cases hd : isAlphanumeric d = true
    · simp [words, startsWord, List.splitOnP_cons_eq_if_modifyHead, hsplit, hc, hd]
    · simp [words, startsWord, List.splitOnP_cons_eq_if_modifyHead, hsplit, hc, hd]

/-- A character in front of a text changes its words by what they are and whether the text begins with one. -/
theorem words_cons_congr (hwords : words cs = words ds) (hstart : startsWord cs = startsWord ds)
    (c : Char) : words (c :: cs) = words (c :: ds) := by
  by_cases hc : isAlphanumeric c = true
  · rw [words_cons hc, words_cons hc, hwords, hstart]
  · rw [Bool.not_eq_true] at hc
    rw [words_cons_of_foreign hc, words_cons_of_foreign hc, hwords]

/-- What is neither letter nor digit and stands behind the last word makes no word. -/
theorem words_concat_of_foreign (hc : isAlphanumeric c = false) (cs : List Char) :
    words (cs ++ [c]) = words cs := by
  have hsep : (!isAlphanumeric c) = true := by rw [hc]; rfl
  rw [words, List.splitOnP_append_cons cs [] hsep, List.filter_append]
  simp [words, List.splitOnP_nil]

/-- The words hold the letters and digits of the text, in their order. -/
theorem flatten_words (cs : List Char) : (words cs).flatten = cs.filter isAlphanumeric := by
  rw [words, List.flatten_filter_not_isEmpty]
  induction cs with
  | nil => simp [List.splitOnP_nil]
  | cons c cs ih =>
    obtain ⟨piece, pieces, hsplit⟩ :=
      List.exists_cons_of_ne_nil (List.splitOnP_ne_nil (!isAlphanumeric ·) cs)
    rw [hsplit] at ih
    by_cases hc : isAlphanumeric c = true
    · simp [List.splitOnP_cons_eq_if_modifyHead, hsplit, hc, ← ih]
    · simp [List.splitOnP_cons_eq_if_modifyHead, hsplit, hc, ← ih]

theorem words_ne_nil (hc : isAlphanumeric c = true) (hmem : c ∈ cs) : words cs ≠ [] := by
  intro hnone
  have hin : c ∈ (words cs).flatten := by
    rw [flatten_words]
    exact List.mem_filter.mpr ⟨hmem, hc⟩
  rw [hnone] at hin
  cases hin

/-! ## What the passes keep -/

theorem masked_cons_of_alphanumeric (hc : isAlphanumeric c = true) (cs : List Char) :
    masked (c :: cs) = c :: masked cs := by
  simp [masked, hc]

theorem masked_cons_of_foreign (hc : isAlphanumeric c = false) (cs : List Char) :
    masked (c :: cs) = '_' :: masked cs := by
  simp [masked, hc]

theorem startsWord_masked (cs : List Char) : startsWord (masked cs) = startsWord cs := by
  cases cs with
  | nil => rfl
  | cons c cs =>
    by_cases hc : isAlphanumeric c = true
    · rw [masked_cons_of_alphanumeric hc]
      rfl
    · rw [Bool.not_eq_true] at hc
      rw [masked_cons_of_foreign hc]
      simp [startsWord, hc]

theorem words_masked (cs : List Char) : words (masked cs) = words cs := by
  induction cs with
  | nil => rfl
  | cons c cs ih =>
    by_cases hc : isAlphanumeric c = true
    · rw [masked_cons_of_alphanumeric hc, words_cons_congr ih (startsWord_masked cs)]
    · rw [Bool.not_eq_true] at hc
      rw [masked_cons_of_foreign hc, words_cons_of_foreign Text.isAlphanumeric_underscore,
        words_cons_of_foreign hc, ih]

theorem head?_collapsed (cs : List Char) : (collapsed cs).head? = cs.head? := by
  induction cs with
  | nil => rfl
  | cons c cs ih =>
    unfold collapsed
    split
    · -- the underscore that is dropped has another one behind it
      rename_i h
      rw [ih, h.2, List.head?_cons, h.1]
    · rfl

theorem words_collapsed (cs : List Char) : words (collapsed cs) = words cs := by
  induction cs with
  | nil => rfl
  | cons c cs ih =>
    unfold collapsed
    split
    · rename_i h
      rw [ih, h.1, words_cons_of_foreign Text.isAlphanumeric_underscore]
    · exact words_cons_congr ih (by rw [startsWord, head?_collapsed]; rfl) c

theorem words_dropWhile (cs : List Char) : words (cs.dropWhile (· == '_')) = words cs := by
  induction cs with
  | nil => rfl
  | cons c cs ih =>
    rw [List.dropWhile_cons]
    split
    · rename_i h
      rw [ih, eq_of_beq h, words_cons_of_foreign Text.isAlphanumeric_underscore]
    · rfl

theorem words_rdropWhile (cs : List Char) : words (cs.rdropWhile (· == '_')) = words cs := by
  induction cs using List.reverseRecOn with
  | nil => rfl
  | append_singleton cs c ih =>
    rw [List.rdropWhile_concat]
    split
    · rename_i h
      rw [ih, eq_of_beq h, words_concat_of_foreign Text.isAlphanumeric_underscore]
    · rfl

theorem words_stripped (cs : List Char) : words (stripped cs) = words cs :=
  (words_rdropWhile _).trans (words_dropWhile cs)

/-- **No pass touches a word.** -/
theorem words_identifierChars (cs : List Char) : words (identifierChars cs) = words cs := by
  rw [identifierChars, words_stripped, words_collapsed, words_masked]

/-! ## Tidy texts -/

/-- Letters and digits, with underscores that stand alone between them. -/
structure Tidy (cs : List Char) : Prop where
  named : ∀ c ∈ cs, IsNameChar c
  single : cs.IsChain fun c d => c = '_' → d ≠ '_'
  starts : cs.head? ≠ some '_'
  ends : cs.getLast? ≠ some '_'

theorem single_collapsed (cs : List Char) :
    (collapsed cs).IsChain fun c d => c = '_' → d ≠ '_' := by
  induction cs with
  | nil => exact List.IsChain.nil
  | cons c cs ih =>
    unfold collapsed
    split
    · exact ih
    · rename_i h
      rw [List.isChain_cons]
      refine ⟨?_, ih⟩
      intro d hd hc hu
      rw [head?_collapsed, hu] at hd
      exact h ⟨hc, hd⟩

theorem stripped_eq (cs : List Char) :
    stripped cs = (cs.dropWhile (· == '_')).rdropWhile (· == '_') := rfl

/-- Stripping cuts off a front and a back. -/
theorem exists_around_stripped (cs : List Char) : ∃ front back, front ++ stripped cs ++ back = cs := by
  obtain ⟨front, hfront⟩ := List.dropWhile_suffix (l := cs) (· == '_')
  obtain ⟨back, hback⟩ := List.rdropWhile_prefix (· == '_') (cs.dropWhile (· == '_'))
  exact ⟨front, back, by rw [List.append_assoc, stripped_eq, hback, hfront]⟩

theorem single_stripped (h : cs.IsChain fun c d => c = '_' → d ≠ '_') :
    (stripped cs).IsChain fun c d => c = '_' → d ≠ '_' := by
  obtain ⟨front, back, hcs⟩ := exists_around_stripped cs
  rw [← hcs] at h
  exact h.left_of_append.right_of_append

theorem head?_stripped_ne (cs : List Char) : (stripped cs).head? ≠ some '_' := by
  intro h
  -- what is left starts as the text does once its front is cut off
  obtain ⟨rest, hrest⟩ := List.rdropWhile_prefix (· == '_') (cs.dropWhile (· == '_'))
  have hfront : (cs.dropWhile (· == '_')).head? = some '_' := by
    rw [← hrest, List.head?_append, ← stripped_eq, h]
    rfl
  have hnot := List.head?_dropWhile_not (· == '_') cs
  rw [hfront] at hnot
  exact absurd hnot (by decide)

theorem getLast?_stripped_ne (cs : List Char) : (stripped cs).getLast? ≠ some '_' := by
  intro h
  obtain ⟨hne, hlast⟩ := List.mem_getLast?_eq_getLast h
  have hnot := List.rdropWhile_last_not (· == '_') (cs.dropWhile (· == '_')) hne
  exact hnot (beq_iff_eq.mpr hlast.symm)

/-- **Identifiers are tidy.** -/
theorem tidy_identifierChars (cs : List Char) : Tidy (identifierChars cs) where
  named _ hc := mem_identifierChars hc
  single := single_stripped (single_collapsed _)
  starts := head?_stripped_ne _
  ends := getLast?_stripped_ne _

theorem ne_underscore (hc : isAlphanumeric c = true) : c ≠ '_' := by
  rintro rfl
  exact absurd hc (by decide)

theorem dropWhile_of_head? (h : cs.head? ≠ some '_') : cs.dropWhile (· == '_') = cs := by
  cases cs with
  | nil => rfl
  | cons c cs =>
    have hc : ¬ (c == '_') = true := by simpa using h
    rw [List.dropWhile_cons, if_neg hc]

/-- Behind an underscore that stands alone, and not at the end, a word begins. -/
theorem exists_behind_underscore (hnamed : ∀ c ∈ cs, IsNameChar c)
    (hsingle : ('_' :: cs).IsChain fun c d => c = '_' → d ≠ '_')
    (hends : ('_' :: cs).getLast? ≠ some '_') : ∃ e es, cs = e :: es ∧ isAlphanumeric e = true := by
  cases cs with
  | nil => exact absurd rfl hends
  | cons e es =>
    have hlone : e ≠ '_' := (List.isChain_cons_cons.mp hsingle).1 rfl
    exact ⟨e, es, rfl, (hnamed e List.mem_cons_self).resolve_right hlone⟩

/-- With one underscore between any two, the words of a text in which underscores stand alone and not at the
    end give the text, but for an underscore at its start. -/
theorem joined_words_of_single (hnamed : ∀ c ∈ cs, IsNameChar c)
    (hsingle : cs.IsChain fun c d => c = '_' → d ≠ '_') (hends : cs.getLast? ≠ some '_') :
    joined (words cs) = cs.dropWhile (· == '_') := by
  induction cs with
  | nil => rfl
  | cons c cs ih =>
    obtain ⟨hnext, hsingle⟩ := List.isChain_cons.mp hsingle
    have hbehind : joined (words cs) = cs.dropWhile (· == '_') := by
      refine ih (fun d hd => hnamed d (List.mem_cons_of_mem c hd)) hsingle ?_
      cases cs with
      | nil => simp
      | cons d ds => rwa [List.getLast?_cons_cons] at hends
    rcases hnamed c List.mem_cons_self with hc | rfl
    · rw [dropWhile_of_head? (by simpa using ne_underscore hc), words_cons hc]
      cases cs with
      | nil => simp [startsWord]
      | cons d ds =>
        rcases hnamed d (by simp) with hd | rfl
        · -- the word goes on
          have hstart : startsWord (d :: ds) = true := hd
          rw [if_pos hstart, joined_modifyHead (words_ne_nil hd List.mem_cons_self), hbehind,
            dropWhile_of_head? (by simpa using ne_underscore hd)]
        · -- the word ends, and another one begins behind the underscore
          have hds : ∀ e ∈ ds, IsNameChar e := fun e he => hnamed e (by simp [he])
          obtain ⟨e, es, rfl, he⟩ := exists_behind_underscore hds hsingle hends
          have hunderscore : words ('_' :: e :: es) = words (e :: es) :=
            words_cons_of_foreign Text.isAlphanumeric_underscore _
          have hrest : joined (words (e :: es)) = e :: es := by
            rw [← hunderscore, hbehind, List.dropWhile_cons_of_pos (by rfl),
              dropWhile_of_head? (by simpa using ne_underscore he)]
          have hstart : startsWord ('_' :: e :: es) = false := Text.isAlphanumeric_underscore
          rw [hstart, if_neg Bool.false_ne_true, hunderscore,
            joined_cons (words_ne_nil he List.mem_cons_self), hrest]
          rfl
    · rw [words_cons_of_foreign Text.isAlphanumeric_underscore, hbehind]
      rfl

/-- **A tidy text is its words joined.** -/
theorem Tidy.joined_words (h : Tidy cs) : joined (words cs) = cs := by
  rw [joined_words_of_single h.named h.single h.ends, dropWhile_of_head? h.starts]

theorem identifierChars_eq_joined (cs : List Char) : identifierChars cs = joined (words cs) := by
  rw [← (tidy_identifierChars cs).joined_words, words_identifierChars]

/-- The texts that are identifiers of themselves are the tidy ones. -/
theorem identifierChars_eq_self_iff : identifierChars cs = cs ↔ Tidy cs := by
  constructor
  · intro h
    rw [← h]
    exact tidy_identifierChars cs
  · intro h
    rw [identifierChars_eq_joined, h.joined_words]

/-! ## Main statement -/

theorem toList_ofText (s : String) : (ofText s).toList = identifierChars s.toList := by
  rw [ofText, String.toList_ofList]

/-- **An identifier is the words of a text, joined.** Whatever the text, the identifier made from it is its
    words with one underscore between any two. So it is tidy, and made into itself; it has the letters and
    digits of the text in their order; and two texts give one identifier exactly if they have the same
    words. -/
theorem ofText_joins_words (s : String) :
    (ofText s).toList = joined (words s.toList) ∧
    ofText (ofText s) = ofText s ∧
    Tidy (ofText s).toList ∧
    (ofText s).toList.filter isAlphanumeric = s.toList.filter isAlphanumeric ∧
    ∀ t : String, ofText s = ofText t ↔ words s.toList = words t.toList := by
  have htidy : Tidy (ofText s).toList := by
    rw [toList_ofText]
    exact tidy_identifierChars s.toList
  have hjoined : ∀ t : String, (ofText t).toList = joined (words t.toList) := by
    intro t
    rw [toList_ofText, identifierChars_eq_joined]
  have hwords : ∀ t : String, words (ofText t).toList = words t.toList := by
    intro t
    rw [toList_ofText, words_identifierChars]
  refine ⟨hjoined s, ?_, htidy, ?_, ?_⟩
  · apply String.toList_injective
    rw [hjoined (ofText s), htidy.joined_words]
  · rw [← flatten_words, hwords, flatten_words]
  · intro t
    constructor
    · intro h
      rw [← hwords s, h, hwords t]
    · intro h
      apply String.toList_injective
      rw [hjoined s, hjoined t, h]

end PinTypes.Identifier
