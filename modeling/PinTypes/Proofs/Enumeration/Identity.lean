import Mathlib.Algebra.Group.Nat.Defs
import Mathlib.Data.Set.Function
import PinTypes.Proofs.Enumeration.Orders
import PinTypes.Proofs.Enumeration.Tables

/-!
# `PinTypes.Proofs.Enumeration.Identity` — identities of minted types

The identity of a minted type is its name with sixteen digits of a digest of its keys behind it. Names may
have underscores, so the one that joins the two is no sign of where the name ends; but the digits are always
sixteen (`length_shortHash`), so an identity falls apart into name and digits in one way
(`MintedEnum.identity_eq_iff`).

The bytes that are digested fall apart as well: before each key stands its length, in eight bytes, so
whatever string they begin, they tell the key and where it ends (`framed_append_inj`), and the bytes of all
keys tell the list of keys (`keyBytes_inj`). This needs keys whose length fits eight bytes.

From the bytes to the digits there is nothing to prove: that no two of the byte strings at hand share their
digits is assumed (`Separated`). Then an identity stands for a name and a list of keys; and since a mint
keeps one type for each of those, a search by identity finds that type, in whichever order it goes through
the types.

## Contents
- **Digits of digests.** `shortHash`, `length_shortHash`.
- **Bytes of keys.** `utf8_inj`, `littleEndian_inj`, `framed_append_inj`, `keyBytes_inj`.
- **Identities.** `MintedEnum.identity_eq_iff`, `Separated`, `Separated.identity_eq_iff`.
- **Searches.** `Mint.mem_values_iff`, `Mint.find?_scan`, `Mint.find?_scan_eq_none`.
- **Main statement.** `Mint.listedKeys`, `Mint.identities_stand_for_signatures`.
-/

namespace PinTypes

/-! ## Digits of digests -/

namespace Digest.Blake3

theorem length_compress (n : Node) (more : UInt32) : (n.compress more).length = 8 := rfl

theorem length_digest (bytes : List UInt8) : (digest bytes).length = 32 := by
  have hword : ∀ w : UInt32, (bytesOfWord w).length = 4 := fun _ => rfl
  simp [digest, List.length_flatMap, hword, length_compress]

theorem length_hex (bytes : List UInt8) : (hex bytes).length = 2 * bytes.length := by
  simp [hex, List.length_flatMap, Nat.mul_comm]

end Digest.Blake3

/-- The first sixteen digits of the digest of the bytes. -/
def shortHash (bytes : List UInt8) : List Char :=
  (Digest.Blake3.hex (Digest.Blake3.digest bytes)).take 16

theorem length_shortHash (bytes : List UInt8) : (shortHash bytes).length = 16 := by
  rw [shortHash, List.length_take, Digest.Blake3.length_hex, Digest.Blake3.length_digest]
  rfl

/-! ## Bytes of keys -/

theorem utf8_inj {s t : String} : utf8 s = utf8 t ↔ s = t := by
  constructor
  · intro h
    have hdata : s.toUTF8.data = t.toUTF8.data := Array.toList_inj.mp h
    exact String.toByteArray_inj.mp (ByteArray.ext hdata)
  · exact congrArg utf8

theorem length_littleEndian (count n : Nat) : (littleEndian count n).length = count := by
  induction count generalizing n with
  | zero => rfl
  | succ count ih => rw [littleEndian, List.length_cons, ih]

/-- So many bytes tell apart the numbers that fit them. -/
theorem littleEndian_inj {count n k : Nat} (hn : n < 256 ^ count) (hk : k < 256 ^ count)
    (h : littleEndian count n = littleEndian count k) : n = k := by
  induction count generalizing n k with
  | zero => omega
  | succ count ih =>
    rw [Nat.pow_succ] at hn hk
    obtain ⟨hlow, hhigh⟩ := List.cons.inj h
    have hbyte : n % 256 = k % 256 := by simpa using congrArg UInt8.toNat hlow
    have hrest : n / 256 = k / 256 := ih (by omega) (by omega) hhigh
    omega

/-- The bytes of one key, its length before it. -/
def framed (key : String) : List UInt8 := littleEndian 8 (utf8 key).length ++ utf8 key

theorem framed_ne_nil (key : String) : framed key ≠ [] := nofun

/-- **A key and its end can be told** from any bytes that begin with it. -/
theorem framed_append_inj {k l : String} (hk : (utf8 k).length < 2 ^ 64) (hl : (utf8 l).length < 2 ^ 64)
    {bytes bytes' : List UInt8} (h : framed k ++ bytes = framed l ++ bytes') : k = l ∧ bytes = bytes' := by
  rw [framed, framed, List.append_assoc, List.append_assoc] at h
  obtain ⟨hcount, hrest⟩ := List.append_inj h (by rw [length_littleEndian, length_littleEndian])
  have hlength : (utf8 k).length = (utf8 l).length := littleEndian_inj hk hl hcount
  obtain ⟨hkey, hend⟩ := List.append_inj hrest hlength
  exact ⟨utf8_inj.mp hkey, hend⟩

theorem keyBytes_cons (k : String) (ks : List String) : keyBytes (k :: ks) = framed k ++ keyBytes ks := rfl

/-- **The bytes that are digested tell the list of keys.** -/
theorem keyBytes_inj {ks ls : List String} (hks : ∀ k ∈ ks, (utf8 k).length < 2 ^ 64)
    (hls : ∀ l ∈ ls, (utf8 l).length < 2 ^ 64) (h : keyBytes ks = keyBytes ls) : ks = ls := by
  induction ks generalizing ls with
  | nil =>
    cases ls with
    | nil => rfl
    | cons l ls => exact absurd h.symm (List.append_ne_nil_of_left_ne_nil (framed_ne_nil l) _)
  | cons k ks ih =>
    cases ls with
    | nil => exact absurd h (List.append_ne_nil_of_left_ne_nil (framed_ne_nil k) _)
    | cons l ls =>
      rw [keyBytes_cons, keyBytes_cons] at h
      obtain ⟨hk, hks'⟩ := List.forall_mem_cons.mp hks
      obtain ⟨hl, hls'⟩ := List.forall_mem_cons.mp hls
      obtain ⟨rfl, hrest⟩ := framed_append_inj hk hl h
      rw [ih hks' hls' hrest]

/-! ## Identities -/

theorem fingerprint_eq (vs : List Scalar) : fingerprint vs = shortHash (keyBytes (vs.map Scalar.key)) := rfl

/-- **An identity falls apart in one way,** whatever underscores there are in the name. -/
theorem MintedEnum.identity_eq_iff {t u : MintedEnum} :
    t.identity = u.identity ↔ t.name = u.name ∧ fingerprint t.variants = fingerprint u.variants := by
  constructor
  · intro h
    have hchars : t.name.toList ++ '_' :: fingerprint t.variants =
        u.name.toList ++ '_' :: fingerprint u.variants := by
      simpa [identity] using congrArg String.toList h
    have hlength : ('_' :: fingerprint t.variants).length = ('_' :: fingerprint u.variants).length := by
      rw [fingerprint_eq, fingerprint_eq, List.length_cons, List.length_cons, length_shortHash,
        length_shortHash]
    obtain ⟨hname, hdigits⟩ := List.append_inj' hchars hlength
    exact ⟨String.toList_inj.mp hname, (List.cons.inj hdigits).2⟩
  · rintro ⟨hname, hdigits⟩
    rw [identity, identity, hname, hdigits]

/-- **What is assumed of lists of keys:** no two of the byte strings that are digested for them share their
    digits, and the length of every key fits the eight bytes that it is written with. -/
structure Separated (lists : Set (List String)) : Prop where
  collisionFree : Set.InjOn shortHash (keyBytes '' lists)
  length_lt : ∀ keys ∈ lists, ∀ k ∈ keys, (utf8 k).length < 2 ^ 64

/-- The digits tell the list of keys. -/
theorem Separated.shortHash_eq_iff {lists : Set (List String)} (h : Separated lists) {ks ls : List String}
    (hks : ks ∈ lists) (hls : ls ∈ lists) : shortHash (keyBytes ks) = shortHash (keyBytes ls) ↔ ks = ls := by
  constructor
  · intro hdigits
    have hbytes : keyBytes ks = keyBytes ls :=
      h.collisionFree (Set.mem_image_of_mem _ hks) (Set.mem_image_of_mem _ hls) hdigits
    exact keyBytes_inj (h.length_lt ks hks) (h.length_lt ls hls) hbytes
  · rintro rfl
    rfl

theorem Separated.identity_eq_iff {lists : Set (List String)} (h : Separated lists) {t u : MintedEnum}
    (ht : t.signature.2 ∈ lists) (hu : u.signature.2 ∈ lists) :
    t.identity = u.identity ↔ t.signature = u.signature := by
  have hkeys : fingerprint t.variants = fingerprint u.variants ↔ t.signature.2 = u.signature.2 :=
    h.shortHash_eq_iff ht hu
  rw [MintedEnum.identity_eq_iff, hkeys, Prod.ext_iff]
  rfl

namespace Mint

/-! ## Searches -/

/-- The types that a search goes through are the types kept. -/
theorem mem_values_iff {m : Mint} (h : m.Sound) {t : Stamped MintedEnum} :
    t ∈ m.types.values ↔ m.Keeps t := by
  rw [Table.mem_values_iff]
  constructor
  · rintro ⟨k, hk⟩
    exact h.keeps_of_getElem? hk
  · intro hkept
    exact ⟨t.type.mintKey, hkept⟩

/-- In whichever order the types are gone through, the one with the identity is found. -/
theorem find?_scan {m : Mint} (h : m.Sound) {scan : List (Stamped MintedEnum)}
    (hscan : scan.Perm m.types.values) {t : Stamped MintedEnum} (ht : m.Keeps t)
    (honly : ∀ u, m.Keeps u → u.type.identity = t.type.identity → u = t) :
    scan.find? (·.type.identity == t.type.identity) = some t := by
  cases hfound : scan.find? (·.type.identity == t.type.identity) with
  | none =>
    have hmem : t ∈ scan := hscan.mem_iff.mpr ((mem_values_iff h).mpr ht)
    exact absurd (beq_self_eq_true _) (List.find?_eq_none.mp hfound t hmem)
  | some u =>
    have hkept : m.Keeps u := (mem_values_iff h).mp (hscan.mem_iff.mp (List.mem_of_find?_eq_some hfound))
    have hid : u.type.identity = t.type.identity := by simpa using List.find?_some hfound
    rw [honly u hkept hid]

theorem find?_scan_eq_none {m : Mint} (h : m.Sound) {scan : List (Stamped MintedEnum)}
    (hscan : scan.Perm m.types.values) {identity : String}
    (hnone : ∀ t, m.Keeps t → t.type.identity ≠ identity) :
    scan.find? (·.type.identity == identity) = none := by
  rw [List.find?_eq_none]
  intro t ht hid
  exact hnone t ((mem_values_iff h).mp (hscan.mem_iff.mp ht)) (eq_of_beq hid)

/-! ## Main statement -/

/-- The lists of keys that are digested in runs of those orders. -/
def listedKeys (orders : List Order) : Set (List String) :=
  {keys | ∃ o ∈ orders, o.values ≠ [] ∧ o.scalars.map Scalar.key = keys}

theorem listedKeys_mono {os ps : List Order} (h : os ⊆ ps) : listedKeys os ⊆ listedKeys ps := by
  rintro keys ⟨o, ho, hkeys⟩
  exact ⟨o, h ho, hkeys⟩

theorem Remembers.keys_listed {m n : Mint} {os : List Order} (h : Remembers m os n)
    {t : Stamped MintedEnum} (ht : n.Keeps t) : t.type.signature.2 ∈ listedKeys os := by
  obtain ⟨o, ho, hvs⟩ := h.first ht
  have hvalues : o.values ≠ [] := by
    intro hnil
    have hasks := List.find?_some ho
    simp [asks, hnil] at hasks
  exact ⟨o, List.mem_of_find?_eq_some ho, hvalues, by rw [MintedEnum.signature, hvs]⟩

/-- **An identity stands for a name and a list of keys.** Whatever a mint gave in a run of orders it still
    keeps. Two types kept by any two mints, each after any run, have the same identity exactly if they have
    the same name and the same keys. A search by identity finds the very type of the mint that has it, and
    nothing if none has; the order in which the types are gone through does not matter. -/
theorem identities_stand_for_signatures (source source' : Nat) (defaultName defaultName' : String)
    (orders orders' : List Order) (h : Separated (listedKeys (orders ++ orders'))) :
    let n := (named source defaultName).after orders
    let n' := (named source' defaultName').after orders'
    (∀ i t, (named source defaultName).givenAt orders i = some t → n.Keeps t) ∧
    (∀ t u, n.Keeps t → n'.Keeps u →
      (t.type.identity = u.type.identity ↔ t.type.signature = u.type.signature)) ∧
    (∀ t, n.Keeps t → n.find? t.type.identity = some t) ∧
    (∀ identity, (∀ t, n.Keeps t → t.type.identity ≠ identity) → n.find? identity = none) ∧
    (∀ (scan : List (Stamped MintedEnum)) (identity : String), scan.Perm n.types.values →
      scan.find? (·.type.identity == identity) = n.find? identity) := by
  intro n n'
  have hn : n.Sound := (after_sound (named_sound source defaultName) orders).1
  have hlisted : ∀ {t}, n.Keeps t → t.type.signature.2 ∈ listedKeys (orders ++ orders') := fun ht =>
    listedKeys_mono (List.subset_append_left _ _)
      ((remembers_after source defaultName orders).keys_listed ht)
  have hlisted' : ∀ {u}, n'.Keeps u → u.type.signature.2 ∈ listedKeys (orders ++ orders') := fun hu =>
    listedKeys_mono (List.subset_append_right _ _)
      ((remembers_after source' defaultName' orders').keys_listed hu)
  have honly : ∀ t, n.Keeps t → ∀ u, n.Keeps u → u.type.identity = t.type.identity → u = t := by
    intro t ht u hu hid
    exact hu.eq_of_signature ht ((h.identity_eq_iff (hlisted hu) (hlisted ht)).mp hid)
  refine ⟨?_, ?_, ?_, ?_, ?_⟩
  · intro i t ht
    exact keeps_of_givenAt (named_sound source defaultName) ht
  · intro t u ht hu
    exact h.identity_eq_iff (hlisted ht) (hlisted' hu)
  · intro t ht
    exact find?_scan hn (List.Perm.refl _) ht (honly t ht)
  · intro identity hnone
    exact find?_scan_eq_none hn (List.Perm.refl _) hnone
  · intro scan identity hscan
    by_cases hsome : ∃ t, n.Keeps t ∧ t.type.identity = identity
    · obtain ⟨t, ht, rfl⟩ := hsome
      rw [find?_scan hn hscan ht (honly t ht)]
      exact (find?_scan hn (List.Perm.refl _) ht (honly t ht)).symm
    · have hnone : ∀ t, n.Keeps t → t.type.identity ≠ identity :=
        fun t ht hid => hsome ⟨t, ht, hid⟩
      rw [find?_scan_eq_none hn hscan hnone]
      exact (find?_scan_eq_none hn (List.Perm.refl _) hnone).symm

/-- An order for two texts. -/
def forward : Order := levelOrder ["a", "b"]

/-- An order for the same two texts, the other way round. -/
def backward : Order := levelOrder ["b", "a"]

theorem keys_of_mem_listedKeys_forward {keys : List String} (h : keys ∈ listedKeys [forward]) :
    keys = ["a", "b"] := by
  obtain ⟨o, ho, -, rfl⟩ := h
  rw [List.mem_singleton.mp ho]
  decide

/-- What is assumed does hold of these two orders. -/
theorem separated_forward_backward : Separated (listedKeys ([forward] ++ [backward])) := by
  have hlists : ∀ keys ∈ listedKeys ([forward] ++ [backward]), keys = ["a", "b"] ∨ keys = ["b", "a"] := by
    rintro keys ⟨o, ho, -, rfl⟩
    rcases List.mem_pair.mp ho with rfl | rfl
    · exact Or.inl (by decide)
    · exact Or.inr (by decide)
  have hne : shortHash (keyBytes ["a", "b"]) ≠ shortHash (keyBytes ["b", "a"]) := by decide +kernel
  refine ⟨?_, ?_⟩
  · rintro _ ⟨ks, hks, rfl⟩ _ ⟨ls, hls, rfl⟩ hdigits
    rcases hlists ks hks with rfl | rfl <;> rcases hlists ls hls with rfl | rfl
    · rfl
    · exact absurd hdigits hne
    · exact absurd hdigits.symm hne
    · rfl
  · intro keys hkeys
    rcases hlists keys hkeys with rfl | rfl <;> decide

/-- The order of the texts tells two types of one name apart, each found by its own mint only. -/
theorem identities_stand_for_signatures_reversed :
    Separated (listedKeys ([forward] ++ [backward])) ∧
    let n := (named 0 "Enum").after [forward]
    let n' := (named 1 "Enum").after [backward]
    ∃ t u, n.Keeps t ∧ n'.Keeps u ∧ t.type.identity ≠ u.type.identity ∧
      n.find? t.type.identity = some t ∧ n.find? u.type.identity = none := by
  refine ⟨separated_forward_backward, ?_⟩
  intro n n'
  obtain ⟨-, hid, hfind, hnone, -⟩ :=
    identities_stand_for_signatures 0 1 "Enum" "Enum" [forward] [backward] separated_forward_backward
  obtain ⟨t, -, ht, -⟩ := answer_spec (named_sound 0 "Enum") (o := forward) (by simp [forward, levelOrder])
  obtain ⟨u, -, hu, husig⟩ :=
    answer_spec (named_sound 1 "Enum") (o := backward) (by simp [backward, levelOrder])
  have hother : ∀ w, n.Keeps w → w.type.identity ≠ u.type.identity := by
    intro w hw hsame
    have hkeys := keys_of_mem_listedKeys_forward ((remembers_after 0 "Enum" [forward]).keys_listed hw)
    rw [(hid w u hw hu).mp hsame, husig] at hkeys
    revert hkeys
    decide
  exact ⟨t, u, ht, hu, hother t ht, hfind t ht, hnone _ hother⟩

end Mint

end PinTypes
