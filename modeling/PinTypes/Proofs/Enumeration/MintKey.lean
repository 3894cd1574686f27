import PinTypes.Enumeration.Minted
import PinTypes.Proofs.Identifier

/-!
# `PinTypes.Proofs.Enumeration.MintKey` — mint keys can be read back

A mint key is a name, a colon, and the escaped keys of the values with bars between them. Inside an
escaped key every bar and every backslash stands behind a backslash, so a bar that is met on its own
ends a key. `splitKeys` reads a joined text by that rule and `splitKeys_joinedKeys` shows that it finds
the keys again, whatever they contain. One reading must stay out: no keys at all and the one empty key
have the same text, which is why lists are not empty here.

The name ends at the first colon as long as it has none itself, and no identifier has one; colons inside
keys do no harm. So a mint key can be read as a whole (`readMintKey_mintKey`).

## Contents
- **Escaping.** `replaced`, `escapedKey_eq_replaced`.
- **Reading keys.** `splitKeys`, `splitKeys_escaped`, `splitKeys_joinedKeys`.
- **Reading names and keys.** `readMintKey`, `readMintKey_mintKey`, and `mintKey_eq_iff`: equal mint keys
  are equal names and equal lists of keys.
- **Main statement.** `mintKey_ofText_eq_iff`, for names that are identifiers.
-/

namespace PinTypes

/-! ## Escaping -/

/-- The text with another one in the place of each occurrence of a character. -/
def replaced (c : Char) (text cs : List Char) : List Char :=
  cs.flatMap fun d => if d = c then text else [d]

/-- A key is escaped by two replacements. The backslashes come first: those that are put before bars are
    not escaped again. -/
theorem escapedKey_eq_replaced (k : String) :
    escapedKey k = replaced '|' ['\\', '|'] (replaced '\\' ['\\', '\\'] k.toList) := by
  unfold escapedKey replaced
  rw [List.flatMap_assoc]
  congr 1
  funext c
  by_cases hslash : c = '\\'
  · simp [hslash]
  · by_cases hbar : c = '|'
    · simp [hbar]
    · simp [hslash, hbar]

/-! ## Reading keys -/

/-- How a character stands inside an escaped key. -/
def escapedChar (c : Char) : List Char := if c = '\\' ∨ c = '|' then ['\\', c] else [c]

theorem escapedKey_eq (k : String) : escapedKey k = k.toList.flatMap escapedChar := rfl

/-- Puts a text in front of the first piece. -/
def ontoFirst (cs : List Char) : List (List Char) → List (List Char)
  | [] => [cs]
  | k :: ks => (cs ++ k) :: ks

theorem ontoFirst_append (cs ds : List Char) (ks : List (List Char)) :
    ontoFirst (cs ++ ds) ks = ontoFirst cs (ontoFirst ds ks) := by
  cases ks <;> simp [ontoFirst]

/-- The keys of a joined text: a bar ends a key unless a backslash stands before it. -/
def splitKeys : List Char → List (List Char)
  | [] => [[]]
  | '\\' :: c :: cs => ontoFirst [c] (splitKeys cs)
  | '|' :: cs => [] :: splitKeys cs
  | c :: cs => ontoFirst [c] (splitKeys cs)

theorem splitKeys_ne_nil (cs : List Char) : splitKeys cs ≠ [] := by
  fun_cases splitKeys cs with
  | case1 => simp
  | case2 c cs => cases splitKeys cs <;> simp [ontoFirst]
  | case3 cs => simp
  | case4 c cs => cases splitKeys cs <;> simp [ontoFirst]

/-- An escaped character is read as that character. -/
theorem splitKeys_escapedChar (c : Char) (rest : List Char) :
    splitKeys (escapedChar c ++ rest) = ontoFirst [c] (splitKeys rest) := by
  unfold escapedChar
  by_cases hc : c = '\\' ∨ c = '|'
  · rw [if_pos hc]
    rfl
  · rw [if_neg hc]
    have hslash : c ≠ '\\' := fun h => hc (Or.inl h)
    have hbar : c ≠ '|' := fun h => hc (Or.inr h)
    exact splitKeys.eq_4 c rest (fun _ _ h _ => hslash h) hbar

/-- An escaped text is read as that text, and reading goes on behind it. -/
theorem splitKeys_escaped (cs rest : List Char) :
    splitKeys (cs.flatMap escapedChar ++ rest) = ontoFirst cs (splitKeys rest) := by
  induction cs with
  | nil =>
    obtain ⟨k, ks, hk⟩ := List.exists_cons_of_ne_nil (splitKeys_ne_nil rest)
    simp [hk, ontoFirst]
  | cons c cs ih =>
    rw [List.flatMap_cons, List.append_assoc, splitKeys_escapedChar, ih, ← ontoFirst_append]
    rfl

/-- **Joined keys are read back.** -/
theorem splitKeys_joinedKeys {ks : List String} (hne : ks ≠ []) :
    splitKeys (joinedKeys ks) = ks.map String.toList := by
  induction ks with
  | nil => exact absurd rfl hne
  | cons k ks ih =>
    cases ks with
    | nil =>
      -- the last key: it is read to the end of the text
      have h := splitKeys_escaped k.toList []
      rw [List.append_nil] at h
      rw [joinedKeys, escapedKey_eq, h]
      simp [splitKeys, ontoFirst]
    | cons l ls =>
      -- the bar behind an escaped key is met on its own, so it ends the key
      rw [joinedKeys, escapedKey_eq, splitKeys_escaped, splitKeys, ih (by simp)]
      · simp [ontoFirst]
      · simp

/-! ## Reading names and keys -/

/-- The name and the keys of a mint key: the name ends at the first colon. -/
def readMintKey (key : String) : String × List String :=
  (String.ofList (key.toList.takeWhile (· != ':')),
    (splitKeys ((key.toList.dropWhile (· != ':')).drop 1)).map String.ofList)

theorem toList_mintKey (name : String) (values : List Scalar) :
    (mintKey name values).toList = name.toList ++ ':' :: joinedKeys (values.map Scalar.key) := by
  simp [mintKey]

/-- **Mint keys are read back.** For a name without a colon and values that are not none, the mint key
    tells the name and the list of keys. -/
theorem readMintKey_mintKey {name : String} {vs : List Scalar} (hname : ':' ∉ name.toList)
    (hv : vs ≠ []) : readMintKey (mintKey name vs) = (name, vs.map Scalar.key) := by
  have hbefore : ∀ c ∈ name.toList, (c != ':') = true := by
    intro c hc
    have hne : c ≠ ':' := fun h => hname (h ▸ hc)
    simpa using hne
  have htake : (mintKey name vs).toList.takeWhile (· != ':') = name.toList := by
    rw [toList_mintKey, List.takeWhile_append_of_pos hbefore]
    simp
  have hdrop : ((mintKey name vs).toList.dropWhile (· != ':')).drop 1 =
      joinedKeys (vs.map Scalar.key) := by
    rw [toList_mintKey, List.dropWhile_append_of_pos hbefore]
    simp
  have hkeys : splitKeys (joinedKeys (vs.map Scalar.key)) = (vs.map Scalar.key).map String.toList :=
    splitKeys_joinedKeys (by simpa using hv)
  rw [readMintKey, htake, hdrop, hkeys, List.map_map]
  simp [Function.comp_def]

theorem mintKey_eq_iff {name other : String} {vs ws : List Scalar}
    (hname : ':' ∉ name.toList) (hother : ':' ∉ other.toList) (hv : vs ≠ []) (hw : ws ≠ []) :
    mintKey name vs = mintKey other ws ↔
      name = other ∧ vs.map Scalar.key = ws.map Scalar.key := by
  constructor
  · intro h
    have hread := congrArg readMintKey h
    rw [readMintKey_mintKey hname hv, readMintKey_mintKey hother hw] at hread
    exact Prod.mk.inj hread
  · rintro ⟨rfl, hk⟩
    rw [mintKey, mintKey, hk]

/-! ## Main statement -/

/-- **Mint keys are unambiguous.** Whatever texts two names are made from, and whatever the values contain,
    two mint keys for values that are not none are equal exactly if the names are equal and the values have
    equal keys, in the same order. -/
theorem mintKey_ofText_eq_iff (text other : String) {vs ws : List Scalar} (hv : vs ≠ [])
    (hw : ws ≠ []) :
    mintKey (Identifier.ofText text) vs = mintKey (Identifier.ofText other) ws ↔
      Identifier.ofText text = Identifier.ofText other ∧
        vs.map Scalar.key = ws.map Scalar.key :=
  mintKey_eq_iff (Identifier.colon_notMem_ofText text) (Identifier.colon_notMem_ofText other) hv hw

/-- A backslash that ends a key is not taken for one that escapes the bar behind it. -/
theorem mintKey_ofText_eq_iff_slash :
    [Scalar.string "a\\", .string "b"] ≠ [] ∧ [Scalar.string "a\\|b"] ≠ [] ∧
      mintKey (Identifier.ofText "Mode") [.string "a\\", .string "b"] ≠
        mintKey (Identifier.ofText "Mode") [.string "a\\|b"] := by
  have htwo : [Scalar.string "a\\", .string "b"] ≠ [] := by simp
  have hone : [Scalar.string "a\\|b"] ≠ [] := by simp
  refine ⟨htwo, hone, ?_⟩
  intro h
  have hkeys := ((mintKey_ofText_eq_iff "Mode" "Mode" htwo hone).mp h).2
  exact absurd (congrArg List.length hkeys) (by simp)

end PinTypes
