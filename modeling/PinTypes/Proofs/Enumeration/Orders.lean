import PinTypes.Proofs.Enumeration.Minting
import Mathlib.Data.Finset.Card
import Mathlib.Data.List.Induction

/-!
# `PinTypes.Proofs.Enumeration.Orders` — runs of orders to one mint

The answer to an order depends on the whole run before it. What a mint remembers of a run is one type for
each signature that was asked for, made of the scalars of the first order that did so (`Remembers`); one
order keeps it so (`Remembers.answer`), hence a run does (`remembers_after`).

Keys are coarser than scalars: the number one and the text `1` have the same key. So an order can be
given a type made of other scalars than its own, those of an earlier order of the same signature.

The name in a signature is the one that the rules of `Mint.NameOf` give (`Mint.signatureOf_eq_iff`), so which
orders share an instance can be told from their texts and values alone.

## Contents
- **Runs.** `Mint.Order`, `Mint.answer`, `Mint.after`, `Mint.answers`, `Mint.givenAt`.
- **What a run has seen.** `Mint.seen`, `Mint.mem_seen_iff`, `Mint.Remembers`, `Mint.remembers_after`.
- **Main statements.** `Mint.run_identifies_by_signature` on instances and counts, and
  `Mint.variants_of_first_order` on the scalars that a type is made of.
-/

namespace PinTypes

namespace Mint

/-! ## Runs -/

/-- An order to the mint. Values are of any type that can be sent. -/
structure Order where
  {Value : Type}
  [sent : ToScalar Value]
  declared : Option String
  values : List Value
  fallback : String
  /-- Whether it is an error that there are no values. -/
  strict : Bool

attribute [instance] Order.sent

/-- The scalars that the values stand for, in order. -/
def Order.scalars (o : Order) : List Scalar := o.values.map toScalar

/-- What comes back for an order. -/
inductive Answer where
  | plain (t : Option (Stamped MintedEnum))
  | strict (t : Except Error (Stamped MintedEnum))

/-- The instance that came back, if one did. -/
def Answer.type? : Answer → Option (Stamped MintedEnum)
  | plain t => t
  | strict (.ok t) => some t
  | strict (.error _) => none

/-- The answer to an order, and the mint after it. -/
def answer (m : Mint) (o : Order) : Answer × Mint :=
  if o.strict then
    let (t, n) := m.tryObtain o.declared o.values o.fallback
    (.strict t, n)
  else
    let (t, n) := m.obtain o.declared o.values o.fallback
    (.plain t, n)

/-- The mint after a run of orders. -/
def after (m : Mint) (orders : List Order) : Mint := orders.foldl (fun n o => (n.answer o).2) m

/-- The answers of a run of orders. -/
def answers (m : Mint) : List Order → List Answer
  | [] => []
  | o :: os => (m.answer o).1 :: answers (m.answer o).2 os

/-- The name and the keys that an order asks for. -/
def signatureOf (m : Mint) (o : Order) : Signature :=
  (m.typeName o.declared o.fallback, o.scalars.map Scalar.key)

theorem after_concat (m : Mint) (os : List Order) (o : Order) :
    m.after (os ++ [o]) = ((m.after os).answer o).2 := by
  simp [after]

theorem answers_concat (m : Mint) (os : List Order) (o : Order) :
    m.answers (os ++ [o]) = m.answers os ++ [((m.after os).answer o).1] := by
  induction os generalizing m with
  | nil => rfl
  | cons p os ih =>
    simp only [List.cons_append, answers, ih]
    rfl

theorem length_answers (m : Mint) (os : List Order) : (m.answers os).length = os.length := by
  induction os generalizing m with
  | nil => rfl
  | cons o os ih => simp [answers, ih]

/-- An order without values is refused, and nothing happens. -/
theorem answer_of_nil (m : Mint) {o : Order} (h : o.values = []) :
    m.answer o =
      (if o.strict then .strict (.error (.emptyValues (m.typeName o.declared o.fallback)))
        else .plain none, m) := by
  unfold answer tryObtain obtain
  cases o.strict <;> simp [h]

/-- An order with values is served by name and scalars, strict or not. -/
theorem answer_of_ne_nil (m : Mint) {o : Order} (h : o.values ≠ []) :
    (m.answer o).1.type? =
        some (m.obtainNamed (m.typeName o.declared o.fallback) o.scalars).1 ∧
      (m.answer o).2 = (m.obtainNamed (m.typeName o.declared o.fallback) o.scalars).2 := by
  unfold answer tryObtain obtain Order.scalars
  cases o.strict <;> simp [h, Answer.type?]

theorem Order.scalars_ne_nil {o : Order} (h : o.values ≠ []) : o.scalars ≠ [] := by
  simpa [Order.scalars] using h

theorem signatureOf_congr {m n : Mint} (h : m.Grows n) (o : Order) :
    n.signatureOf o = m.signatureOf o := by
  simp [signatureOf, typeName, h.defaultName_eq]

/-- The signature that an order asks for, said by the rules for names. -/
theorem signatureOf_eq_iff {source : Nat} {defaultName : String} {o : Order} {s : Signature} :
    (named source defaultName).signatureOf o = s ↔
      NameOf defaultName o.declared o.fallback s.1 ∧ o.scalars.map Scalar.key = s.2 := by
  rw [nameOf_iff (m := named source defaultName) rfl, signatureOf, Prod.ext_iff]

/-- **One step of a run.** -/
theorem answer_spec {m : Mint} (h : m.Sound) {o : Order} (ho : o.values ≠ []) :
    ∃ t, (m.answer o).1.type? = some t ∧ (m.answer o).2.Keeps t ∧
      t.type.signature = m.signatureOf o := by
  obtain ⟨htype, hmint⟩ := m.answer_of_ne_nil ho
  obtain ⟨-, -, hkept, hsig⟩ :=
    obtainNamed_spec h (h.typeName_plain o.declared o.fallback) (Order.scalars_ne_nil ho)
  exact ⟨_, htype, hmint ▸ hkept, hsig⟩

theorem answer_sound {m : Mint} (h : m.Sound) (o : Order) :
    (m.answer o).2.Sound ∧ m.Grows (m.answer o).2 := by
  by_cases ho : o.values = []
  · rw [m.answer_of_nil ho]
    exact ⟨h, Grows.refl m⟩
  · rw [(m.answer_of_ne_nil ho).2]
    obtain ⟨hsound, hgrows, -⟩ :=
      obtainNamed_spec h (h.typeName_plain o.declared o.fallback) (Order.scalars_ne_nil ho)
    exact ⟨hsound, hgrows⟩

/-- **A run of orders.** A sound mint stays sound and gives nothing up. -/
theorem after_sound {m : Mint} (h : m.Sound) (os : List Order) :
    (m.after os).Sound ∧ m.Grows (m.after os) := by
  induction os using List.reverseRecOn with
  | nil => exact ⟨h, Grows.refl m⟩
  | append_singleton os o ih =>
    rw [after_concat]
    obtain ⟨hsound, hgrows⟩ := answer_sound ih.1 o
    exact ⟨hsound, ih.2.trans hgrows⟩

/-- The instance that came back for the order at a position, if one did. -/
def givenAt (m : Mint) (os : List Order) (i : Nat) : Option (Stamped MintedEnum) :=
  (m.answers os)[i]?.bind Answer.type?

/-- What an order gave is still kept at the end of the run, under the signature asked for. -/
theorem givenAt_spec {m : Mint} (h : m.Sound) {os : List Order} {i : Nat} {o : Order}
    (hi : os[i]? = some o) (ho : o.values ≠ []) :
    ∃ t, m.givenAt os i = some t ∧ (m.after os).Keeps t ∧ t.type.signature = m.signatureOf o := by
  induction os using List.reverseRecOn with
  | nil => simp at hi
  | append_singleton os p ih =>
    obtain ⟨hsound, hgrows⟩ := after_sound h os
    have hlen := m.length_answers os
    unfold givenAt
    rw [after_concat, answers_concat]
    rcases Nat.lt_trichotomy i os.length with hlt | heq | hgt
    · -- an earlier order: what it was given is kept through the last one
      rw [List.getElem?_append_left hlt] at hi
      rw [List.getElem?_append_left (hlen.symm ▸ hlt)]
      obtain ⟨t, ht, hkept, hsig⟩ := ih hi
      exact ⟨t, ht, (answer_sound hsound p).2.keeps hkept, hsig⟩
    · -- the last order itself
      subst heq
      rw [List.getElem?_concat_length] at hi
      obtain rfl := Option.some.inj hi
      obtain ⟨t, ht, hkept, hsig⟩ := answer_spec hsound ho
      rw [signatureOf_congr hgrows] at hsig
      refine ⟨t, ?_, hkept, hsig⟩
      rw [← hlen, List.getElem?_concat_length]
      exact ht
    · rw [List.getElem?_eq_none (by simp; omega)] at hi
      cases hi

/-- Only orders with values are given an instance. -/
theorem givenAt_eq_some {m : Mint} {os : List Order} {i : Nat} {t : Stamped MintedEnum}
    (h : m.givenAt os i = some t) : ∃ o, os[i]? = some o ∧ o.values ≠ [] := by
  induction os generalizing m i with
  | nil => simp [givenAt, answers] at h
  | cons o os ih =>
    cases i with
    | zero =>
      refine ⟨o, rfl, fun ho => ?_⟩
      have hnone : (m.answer o).1.type? = none := by
        rw [m.answer_of_nil ho]
        cases o.strict <;> rfl
      simp [givenAt, answers, hnone] at h
    | succ i => exact ih h

/-- Every instance given in a run is kept at its end. -/
theorem keeps_of_givenAt {m : Mint} (h : m.Sound) {os : List Order} {i : Nat}
    {t : Stamped MintedEnum} (ht : m.givenAt os i = some t) : (m.after os).Keeps t := by
  obtain ⟨o, hi, ho⟩ := givenAt_eq_some ht
  obtain ⟨u, hu, hkept, -⟩ := givenAt_spec h hi ho
  rw [hu] at ht
  exact Option.some.inj ht ▸ hkept

/-! ## What a run has seen -/

/-- Whether an order has values and asks for that name and those keys. -/
def asks (m : Mint) (s : Signature) (o : Order) : Bool := !o.values.isEmpty && m.signatureOf o == s

/-- The names and lists of keys that a run asks for. -/
def seen (m : Mint) (os : List Order) : Finset Signature :=
  ((os.filter (!·.values.isEmpty)).map m.signatureOf).toFinset

theorem mem_seen {m : Mint} {os : List Order} {s : Signature} :
    s ∈ m.seen os ↔ ∃ o ∈ os, m.asks s o = true := by
  simp [seen, asks, and_assoc]

/-- What a run has seen, said by the rules for names. -/
theorem mem_seen_iff {source : Nat} {defaultName : String} {os : List Order} {s : Signature} :
    s ∈ (named source defaultName).seen os ↔
      ∃ o ∈ os, o.values ≠ [] ∧
        NameOf defaultName o.declared o.fallback s.1 ∧ o.scalars.map Scalar.key = s.2 := by
  simp only [mem_seen, asks, Bool.and_eq_true, beq_iff_eq, signatureOf_eq_iff, Bool.not_eq_true',
    List.isEmpty_eq_false_iff]

theorem seen_concat_nil {m : Mint} {os : List Order} {o : Order} (ho : o.values = []) :
    m.seen (os ++ [o]) = m.seen os := by
  simp [seen, ho]

theorem seen_concat {m : Mint} {os : List Order} {o : Order} (ho : o.values ≠ []) :
    m.seen (os ++ [o]) = insert (m.signatureOf o) (m.seen os) := by
  have hv : (!o.values.isEmpty) = true := by simpa using ho
  rw [seen, List.filter_append, List.map_append, List.toFinset_append, List.filter_singleton, hv]
  rw [Finset.union_comm]
  rfl

/-- **What a mint remembers of a run** that has brought it from `m` to `n`: it keeps one type for each
    signature seen, made of the scalars of the first order that asked for it. -/
structure Remembers (m : Mint) (os : List Order) (n : Mint) : Prop where
  keeps_seen : ∀ {s : Signature}, s ∈ m.seen os → ∃ t, n.Keeps t ∧ t.type.signature = s
  first : ∀ {t : Stamped MintedEnum}, n.Keeps t →
    ∃ o, os.find? (m.asks t.type.signature) = some o ∧ t.type.variants = o.scalars
  made_eq : n.made = (m.seen os).card

theorem Remembers.seen_of_keeps {m n : Mint} {os : List Order} (h : Remembers m os n)
    {t : Stamped MintedEnum} (ht : n.Keeps t) : t.type.signature ∈ m.seen os := by
  obtain ⟨o, ho, -⟩ := h.first ht
  exact mem_seen.mpr ⟨o, List.mem_of_find?_eq_some ho, List.find?_some ho⟩

theorem remembers_named (source : Nat) (defaultName : String) :
    Remembers (named source defaultName) [] (named source defaultName) where
  keeps_seen := by intro s h; simp [seen] at h
  first := fun h => absurd h not_keeps_named
  made_eq := by simp [seen, named]

/-- A type of the run so far is still made of the scalars of the same order. -/
theorem Remembers.first_concat {m n : Mint} {os : List Order} (h : Remembers m os n) (o : Order)
    {t : Stamped MintedEnum} (ht : n.Keeps t) :
    ∃ p, (os ++ [o]).find? (m.asks t.type.signature) = some p ∧ t.type.variants = p.scalars := by
  obtain ⟨p, hp, hvs⟩ := h.first ht
  exact ⟨p, by rw [List.find?_append, hp, Option.some_or], hvs⟩

/-- The order was served from what the mint has. -/
theorem Remembers.hit {m n : Mint} {os : List Order} (h : Remembers m os n) {o : Order}
    (ho : o.values ≠ []) {t : Stamped MintedEnum} (ht : n.Keeps t)
    (hsig : t.type.signature = m.signatureOf o) : Remembers m (os ++ [o]) n := by
  have hold : m.seen (os ++ [o]) = m.seen os := by
    rw [seen_concat ho, Finset.insert_eq_of_mem]
    exact hsig ▸ h.seen_of_keeps ht
  refine ⟨fun hs => h.keeps_seen (hold ▸ hs), fun hu => h.first_concat o hu, ?_⟩
  rw [hold]
  exact h.made_eq

/-- The order was served with a fresh instance: none of its name and keys was there. -/
theorem Remembers.miss {m n : Mint} {os : List Order} (h : Remembers m os n) {o : Order}
    (ho : o.values ≠ []) {name : String} (hsig : m.signatureOf o = (name, o.scalars.map Scalar.key))
    (hfree : n.types[mintKey name o.scalars]? = none) :
    Remembers m (os ++ [o]) (n.adding (n.fresh name o.scalars)) := by
  have hnew : m.signatureOf o ∉ m.seen os := by
    intro hs
    obtain ⟨t, ht, hts⟩ := h.keeps_seen hs
    exact ht.signature_ne_of_free hfree (hts.trans hsig)
  refine ⟨?_, ?_, ?_⟩
  · intro s hs
    rw [seen_concat ho, Finset.mem_insert] at hs
    rcases hs with rfl | hs
    · exact ⟨_, (keeps_adding_fresh hfree).mpr (Or.inr rfl), hsig.symm⟩
    · obtain ⟨t, ht, hts⟩ := h.keeps_seen hs
      exact ⟨t, (keeps_adding_fresh hfree).mpr (Or.inl ht), hts⟩
  · intro t ht
    rcases (keeps_adding_fresh hfree).mp ht with ht | rfl
    · exact h.first_concat o ht
    · -- no order before this one asked for the signature
      have hnone : os.find? (m.asks (m.signatureOf o)) = none := by
        rw [List.find?_eq_none]
        exact fun p hp hasks => hnew (mem_seen.mpr ⟨p, hp, hasks⟩)
      have hself : m.asks (m.signatureOf o) o = true := by simp [asks, ho]
      refine ⟨o, ?_, rfl⟩
      rw [signature_fresh, ← hsig, List.find?_append, hnone, Option.none_or, List.find?_singleton,
        hself]
      rfl
  · rw [seen_concat ho, Finset.card_insert_of_notMem hnew, ← h.made_eq]
    rfl

theorem Remembers.answer {m n : Mint} {os : List Order} (h : Remembers m os n) (hn : n.Sound)
    (hgrows : m.Grows n) (o : Order) : Remembers m (os ++ [o]) (n.answer o).2 := by
  by_cases ho : o.values = []
  · rw [n.answer_of_nil ho]
    refine ⟨fun hs => h.keeps_seen (seen_concat_nil ho ▸ hs), fun hu => h.first_concat o hu, ?_⟩
    rw [seen_concat_nil ho]
    exact h.made_eq
  · obtain ⟨-, -, hkept, hsig⟩ :=
      obtainNamed_spec hn (hn.typeName_plain o.declared o.fallback) (Order.scalars_ne_nil ho)
    rw [(n.answer_of_ne_nil ho).2]
    rcases n.obtainNamed_cases (n.typeName o.declared o.fallback) o.scalars with
      ⟨t, -, hres⟩ | ⟨hfree, hres⟩
    · rw [hres] at hkept hsig ⊢
      exact h.hit ho hkept (hsig.trans (signatureOf_congr hgrows o))
    · rw [hres]
      exact h.miss ho (signatureOf_congr hgrows o).symm hfree

/-- **A run is remembered.** -/
theorem remembers_after (source : Nat) (defaultName : String) (os : List Order) :
    Remembers (named source defaultName) os ((named source defaultName).after os) := by
  induction os using List.reverseRecOn with
  | nil => exact remembers_named source defaultName
  | append_singleton os o ih =>
    obtain ⟨hsound, hgrows⟩ := after_sound (named_sound source defaultName) os
    rw [after_concat]
    exact ih.answer hsound hgrows o

/-! ## Main statements -/

/-- **Instances are told apart by name and keys, and counted.** Take a mint that begins under any default, such
    as that of some settings. Each order resolves to one name, by its declared text, its fallback and the
    default. After any run of orders: two orders with values were given the same instance exactly if their
    names are the same and their keys are the same, position by position; an order without values is refused
    under its name and changes nothing; as many types are kept, and were ever made, as names with keys were
    asked for; and the mint owns every instance that it gave and none that came from another source. -/
theorem run_identifies_by_signature (source : Nat) (defaultName : String) (orders : List Order) :
    let m := named source defaultName
    let n := m.after orders
    (∀ o : Order, ∃! name, NameOf defaultName o.declared o.fallback name) ∧
    (∀ (i j : Nat) (o p : Order) (a b : String), orders[i]? = some o → orders[j]? = some p →
      o.values ≠ [] → p.values ≠ [] →
      NameOf defaultName o.declared o.fallback a → NameOf defaultName p.declared p.fallback b →
      ∃ t u, m.givenAt orders i = some t ∧ m.givenAt orders j = some u ∧
        ((EnumType.minted t).sameInstance (.minted u) = true ↔
          a = b ∧ o.scalars.map Scalar.key = p.scalars.map Scalar.key)) ∧
    (∀ (o : Order) (name : String), o.values = [] → NameOf defaultName o.declared o.fallback name →
      n.answer o = (if o.strict then .strict (.error (.emptyValues name)) else .plain none, n)) ∧
    ((∀ (name : String) (keys : List String), (name, keys) ∈ m.seen orders ↔
        ∃ o ∈ orders, o.values ≠ [] ∧
          NameOf defaultName o.declared o.fallback name ∧ o.scalars.map Scalar.key = keys) ∧
      n.stats = ⟨(m.seen orders).card, (m.seen orders).card⟩ ∧ n.size = (m.seen orders).card) ∧
    (∀ i t, m.givenAt orders i = some t → n.isOwn t = true) ∧
    (∀ source' defaultName' orders' i t, source' ≠ source →
      (named source' defaultName').givenAt orders' i = some t → n.isOwn t = false) := by
  intro m n
  have hm : m.Sound := named_sound source defaultName
  obtain ⟨hn, hgrows⟩ := after_sound hm orders
  have hmade : n.made = (m.seen orders).card := (remembers_after source defaultName orders).made_eq
  have hsize : n.size = (m.seen orders).card := hn.size_eq.trans hmade
  refine ⟨?_, ?_, ?_, ⟨fun name keys => mem_seen_iff, ?_, hsize⟩, ?_, ?_⟩
  · intro o
    simp only [nameOf_iff (m := m) rfl]
    exact ⟨m.typeName o.declared o.fallback, rfl, fun _ h => h.symm⟩
  · intro i j o p a b hi hj ho hp ha hb
    obtain ⟨t, ht, htkept, htsig⟩ := givenAt_spec hm hi ho
    obtain ⟨u, hu, hukept, husig⟩ := givenAt_spec hm hj hp
    have hoSig : m.signatureOf o = (a, o.scalars.map Scalar.key) := signatureOf_eq_iff.mpr ⟨ha, rfl⟩
    have hpSig : m.signatureOf p = (b, p.scalars.map Scalar.key) := signatureOf_eq_iff.mpr ⟨hb, rfl⟩
    refine ⟨t, u, ht, hu, ?_⟩
    calc (EnumType.minted t).sameInstance (.minted u) = true
      _ ↔ t.stamp = u.stamp := by simp [EnumType.sameInstance]
      _ ↔ t.type.signature = u.type.signature := hn.stamp_eq_iff htkept hukept
      _ ↔ a = b ∧ o.scalars.map Scalar.key = p.scalars.map Scalar.key := by
        rw [htsig, husig, hoSig, hpSig, Prod.mk.injEq]
  · intro o name ho hname
    rw [n.answer_of_nil ho, (nameOf_iff hgrows.defaultName_eq).mp hname]
  · rw [stats, hsize, hmade]
  · intro i t ht
    exact isOwn_of_keeps (keeps_of_givenAt hm ht)
  · intro source' defaultName' orders' i t hne ht
    have hm' := named_sound source' defaultName'
    obtain ⟨hn', hgrows'⟩ := after_sound hm' orders'
    -- the stamp tells the source, and a mint owns no instance with another one
    have hsource : t.stamp.source = source' :=
      (hn'.source_eq (keeps_of_givenAt hm' ht)).trans hgrows'.source_eq
    refine hn.isOwn_foreign ?_
    rw [hsource, hgrows.source_eq]
    exact hne

/-- An order for the values of a list under the name `Level`. -/
def levelOrder {α : Type} [ToScalar α] (values : List α) : Order :=
  { declared := some "Level", values, fallback := "Enum", strict := false }

/-- Three orders for one list of keys: under the name `Level`, under a blank name that gives way to it, and
    under a name of which nothing is left. -/
def levelOrders : List Order :=
  [levelOrder [(1 : Int64)],
    { declared := some " ", values := ["1"], fallback := "Level", strict := false },
    { declared := some "??", values := ["1"], fallback := "Level", strict := true }]

theorem nameOf_declared_level : NameOf "Enum" (some "Level") "Enum" "Level" := by
  have hname : Identifier.ofText "Level" = "Level" := by decide
  have hhint : HintOf (some "Level") "Enum" "Level" := .declared rfl ⟨'L', by decide, by decide⟩
  exact hname ▸ .hint hhint (by decide)

theorem nameOf_blank_level : NameOf "Enum" (some " ") "Level" "Level" := by
  have hname : Identifier.ofText "Level" = "Level" := by decide
  have hhint : HintOf (some " ") "Level" "Level" := by
    refine .fallback fun text h => ?_
    obtain rfl := Option.some.inj h
    exact List.all_eq_true.mp (show Text.isBlankText " " = true by decide)
  exact hname ▸ .hint hhint (by decide)

theorem nameOf_marks : NameOf "Enum" (some "??") "Level" "Enum" := by
  have hname : Identifier.ofText "Enum" = "Enum" := by decide
  have hhint : HintOf (some "??") "Level" "??" := .declared rfl ⟨'?', by decide, by decide⟩
  exact hname ▸ .default hhint (by decide) (by decide)

/-- The blank name gives way to the fallback, and the key of a text is that of the number, so two of the orders
    share an instance; the third has another, under the default name. -/
theorem run_identifies_by_signature_levels :
    let m := named 0 "Enum"
    let n := m.after levelOrders
    let refused : Order :=
      { declared := some " ", values := ([] : List String), fallback := "Level", strict := true }
    (∃ t u w, m.givenAt levelOrders 0 = some t ∧ m.givenAt levelOrders 1 = some u ∧
      m.givenAt levelOrders 2 = some w ∧ (EnumType.minted t).sameInstance (.minted u) = true ∧
      (EnumType.minted t).sameInstance (.minted w) = false ∧ n.isOwn t = true) ∧
    n.answer refused = (.strict (.error (.emptyValues "Level")), n) ∧
    (("Enum", ["1"]) ∈ m.seen levelOrders ∧ n.stats = ⟨2, 2⟩) ∧
    ∃ x, (named 1 "Enum").givenAt levelOrders 0 = some x ∧ n.isOwn x = false := by
  intro m n refused
  obtain ⟨-, hsame, hempty, ⟨hseen, hstats, -⟩, hown, hforeign⟩ :=
    run_identifies_by_signature 0 "Enum" levelOrders
  obtain ⟨t, u, ht, hu, htu⟩ := hsame 0 1 _ _ _ _ rfl rfl (List.cons_ne_nil _ _) (List.cons_ne_nil _ _)
    nameOf_declared_level nameOf_blank_level
  obtain ⟨t', w, ht', hw, htw⟩ := hsame 0 2 _ _ _ _ rfl rfl (List.cons_ne_nil _ _) (List.cons_ne_nil _ _)
    nameOf_declared_level nameOf_marks
  obtain rfl : t' = t := Option.some.inj (ht'.symm.trans ht)
  obtain ⟨-, helsewhere, -⟩ := run_identifies_by_signature 1 "Enum" levelOrders
  obtain ⟨x, -, hx, -⟩ := helsewhere 0 0 _ _ _ _ rfl rfl (List.cons_ne_nil _ _) (List.cons_ne_nil _ _)
    nameOf_declared_level nameOf_declared_level
  have hcard : (m.seen levelOrders).card = 2 := by decide
  refine ⟨⟨t', u, w, ht', hu, hw, htu.mpr ⟨rfl, by decide⟩, ?_, hown 0 t' ht'⟩,
    hempty refused "Level" rfl nameOf_blank_level, ⟨?_, hcard ▸ hstats⟩,
    x, hx, hforeign 1 "Enum" levelOrders 0 x (by decide) hx⟩
  · rw [Bool.eq_false_iff]
    intro h
    exact absurd (htw.mp h).1 (by decide)
  · apply (hseen "Enum" ["1"]).mpr
    exact ⟨_, List.mem_of_getElem? (i := 2) rfl, List.cons_ne_nil _ _, nameOf_marks, rfl⟩

/-- The type given for an order is made of the scalars of the first order of its name and keys. -/
theorem answer_first (source : Nat) (defaultName : String) (orders : List Order) {o : Order}
    (ho : o.values ≠ []) :
    ∃ t p, (((named source defaultName).after orders).answer o).1.type? = some t ∧
      t.type.signature = (named source defaultName).signatureOf o ∧
      (orders ++ [o]).find? ((named source defaultName).asks
        ((named source defaultName).signatureOf o)) = some p ∧
      t.type.variants = p.scalars := by
  obtain ⟨hsound, hgrows⟩ := after_sound (named_sound source defaultName) orders
  obtain ⟨t, ht, hkept, hsig⟩ := answer_spec hsound ho
  rw [signatureOf_congr hgrows] at hsig
  rw [← after_concat] at hkept
  obtain ⟨p, hp, hvs⟩ := (remembers_after source defaultName (orders ++ [o])).first hkept
  rw [hsig] at hp
  exact ⟨t, p, ht, hsig, hp, hvs⟩

/-- **A type is made of the scalars of the first order of its name and keys.** Any later order of that
    name and those keys is given the type of the first one. Its keys are those of the order at every
    position; its scalars are those of the order exactly if the first order listed the same scalars. -/
theorem variants_of_first_order (source : Nat) (defaultName : String) (orders : List Order)
    (o : Order) (ho : o.values ≠ []) :
    let m := named source defaultName
    ∃ t p, ((m.after orders).answer o).1.type? = some t ∧
      (orders ++ [o]).find? (m.asks (m.signatureOf o)) = some p ∧
      t.type.variants = p.scalars ∧
      t.type.variants.map Scalar.key = o.scalars.map Scalar.key ∧
      (t.type.variants = o.scalars ↔ p.scalars = o.scalars) := by
  intro m
  obtain ⟨t, p, ht, hsig, hp, hvs⟩ := answer_first source defaultName orders ho
  exact ⟨t, p, ht, hp, hvs, congrArg Prod.snd hsig, by rw [hvs]⟩

/-- A number and its text have one key: the text is sent as the number. -/
theorem variants_of_first_order_number :
    (levelOrder ["1"]).values ≠ [] ∧
    let m := named 0 "Enum"
    ∃ t p, ((m.after [levelOrder [(1 : Int64)]]).answer (levelOrder ["1"])).1.type? = some t ∧
      ([levelOrder [(1 : Int64)]] ++ [levelOrder ["1"]]).find?
        (m.asks (m.signatureOf (levelOrder ["1"]))) = some p ∧
      t.type.variants = p.scalars ∧
      t.type.variants.map Scalar.key = (levelOrder ["1"]).scalars.map Scalar.key ∧
      (t.type.variants = (levelOrder ["1"]).scalars ↔ p.scalars = (levelOrder ["1"]).scalars) :=
  ⟨by simp [levelOrder], variants_of_first_order 0 "Enum" [levelOrder [(1 : Int64)]]
    (levelOrder ["1"]) (by simp [levelOrder])⟩

/-- The scalars of a type need not be those of the order that it was given for. -/
theorem variants_ne_scalars_of_order :
    ∃ t, (((named 0 "Enum").after [levelOrder [(1 : Int64)]]).answer (levelOrder ["1"])).1.type?
        = some t ∧ t.type.variants = [.int 1] ∧ (levelOrder ["1"]).scalars = [.string "1"] := by
  obtain ⟨t, p, ht, -, hp, hvs⟩ :=
    answer_first 0 "Enum" [levelOrder [(1 : Int64)]] (o := levelOrder ["1"]) (by simp [levelOrder])
  have hfirst : (named 0 "Enum").asks ((named 0 "Enum").signatureOf (levelOrder ["1"]))
      (levelOrder [(1 : Int64)]) = true := by
    have hkeys : (levelOrder [(1 : Int64)]).scalars.map Scalar.key
        = (levelOrder ["1"]).scalars.map Scalar.key := by decide
    rw [asks, signatureOf, signatureOf, hkeys]
    simp [levelOrder]
  rw [List.cons_append, List.find?_cons_of_pos hfirst] at hp
  obtain rfl := Option.some.inj hp
  exact ⟨t, ht, hvs, rfl⟩

end Mint

end PinTypes
