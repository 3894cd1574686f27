import PinTypes.Proofs.SchemaType.Occurrence

/-!
# `PinTypes.Proofs.SchemaType.Narrowing` — what narrowing a union depends on

A union without a telling name is narrowed by four questions about its members: whether each scalar family
shows in one of them, and whether there is one in which none shows. `Family.ofSigns` is the decision by the
four answers, and what each outcome means is read off it (`family_eq_numeric_iff` and its companions).

The questions are about the members one by one, and about a member they ask no more than its *signals*:
which families show in it. So all that matters of a list of members is which signals occur in it
(`SameSignals.ofMembers_eq`). Reordering and repeating members keeps that, and so does a change inside a member
that keeps its signals. An edit somewhere below a type (`EditBelow`) is one of these at some depth, and whatever
is told of a type by its word and by what occurs among its members survives it (`EditBelow.sameAnswers`). The
signals are told so, and an edit keeps those that occur among the members of the root (`EditBelow.kept`).

## Contents
- **The decision.** `Family.ofSigns`, `HasForeign`, `family_eq_numeric_iff`, `family_eq_boolean_iff`,
  `family_eq_text_iff`.
- **Signals.** `signals`, `SameSignals`, `signals_congr`, `SameSignals.ofMembers_eq`.
- **Edits.** `Change`, `EditBelow`, `EditBelow.sameAnswers`, `KeptBelow`, `EditBelow.kept`.
- **Main statement.** `family_told_by_kinds_below`.
-/

namespace PinTypes

/-! ## The decision -/

/-- The family of a union by what its members show: numbers, truth values, texts, and whether there is a
    member that shows nothing. -/
def Family.ofSigns (numbers truths texts others : Bool) : Family :=
  if texts then if numbers || truths || others then object else text
  else if numbers then numeric
  else if truths && !others then boolean
  else object

namespace Family

/-- The four answers are searched for among the members. -/
theorem ofMembers_eq (members : List SchemaType) : ofMembers members = ofSigns
    (members.any fun a => a.mentions (ScalarFamily.holds .numeric))
    (members.any fun a => a.mentions (ScalarFamily.holds .boolean))
    (members.any fun a => a.mentions (ScalarFamily.holds .text))
    (members.any fun a => a.isForeign) := rfl

theorem ofSigns_eq_numeric_iff : ∀ {numbers truths texts others : Bool},
    ofSigns numbers truths texts others = numeric ↔ numbers = true ∧ ¬ texts = true := by
  decide

theorem ofSigns_eq_boolean_iff : ∀ {numbers truths texts others : Bool},
    ofSigns numbers truths texts others = boolean ↔
      truths = true ∧ ¬ texts = true ∧ ¬ numbers = true ∧ ¬ others = true := by
  decide

theorem ofSigns_eq_text_iff : ∀ {numbers truths texts others : Bool},
    ofSigns numbers truths texts others = text ↔
      texts = true ∧ ¬ numbers = true ∧ ¬ truths = true ∧ ¬ others = true := by
  decide

end Family

namespace SchemaType

/-- In one of the members no scalar family shows. -/
def HasForeign (t : SchemaType) : Prop := ∃ a ∈ t.args, ∀ f, ¬ a.Shows f

theorem isForeign_iff (t : SchemaType) : t.isForeign = true ↔ ∀ f, ¬ t.Shows f := by
  have hshows (f : ScalarFamily) : ¬ t.Shows f ↔ (!t.mentions f.holds) = true := by
    rw [← mentions_iff, Bool.not_eq_true', Bool.not_eq_true]
  rw [isForeign, Bool.and_eq_true, Bool.and_eq_true]
  constructor
  · rintro ⟨⟨hnumeric, hboolean⟩, htext⟩ f
    rw [hshows]
    cases f with
    | numeric => exact hnumeric
    | boolean => exact hboolean
    | text => exact htext
  · intro h
    exact ⟨⟨(hshows .numeric).mp (h .numeric), (hshows .boolean).mp (h .boolean)⟩,
      (hshows .text).mp (h .text)⟩

theorem any_mentions_iff (f : ScalarFamily) (t : SchemaType) :
    (t.args.any fun a => a.mentions f.holds) = true ↔ t.ShowsBelow f := by
  rw [List.any_eq_true, showsBelow_iff]
  exact exists_congr fun a => and_congr_right fun _ => mentions_iff f a

theorem any_isForeign_iff (t : SchemaType) : (t.args.any fun a => a.isForeign) = true ↔ t.HasForeign := by
  rw [List.any_eq_true]
  exact exists_congr fun a => and_congr_right fun _ => isForeign_iff a

section

variable {t : SchemaType} (hname : t.name?.bind Family.ofHint = none)

include hname

/-- Without a telling name the answers of the members decide. -/
theorem family_eq_ofSigns : t.family = Family.ofSigns
    (t.args.any fun a => a.mentions (ScalarFamily.holds .numeric))
    (t.args.any fun a => a.mentions (ScalarFamily.holds .boolean))
    (t.args.any fun a => a.mentions (ScalarFamily.holds .text))
    (t.args.any fun a => a.isForeign) := by
  unfold family
  rw [hname]
  exact Family.ofMembers_eq t.args

theorem family_eq_numeric_iff : t.family = .numeric ↔ t.ShowsBelow .numeric ∧ ¬ t.ShowsBelow .text := by
  rw [family_eq_ofSigns hname, Family.ofSigns_eq_numeric_iff, any_mentions_iff, any_mentions_iff]

theorem family_eq_boolean_iff :
    t.family = .boolean ↔
      t.ShowsBelow .boolean ∧ ¬ t.ShowsBelow .text ∧ ¬ t.ShowsBelow .numeric ∧ ¬ t.HasForeign := by
  rw [family_eq_ofSigns hname, Family.ofSigns_eq_boolean_iff, any_mentions_iff, any_mentions_iff,
    any_mentions_iff, any_isForeign_iff]

theorem family_eq_text_iff :
    t.family = .text ↔
      t.ShowsBelow .text ∧ ¬ t.ShowsBelow .numeric ∧ ¬ t.ShowsBelow .boolean ∧ ¬ t.HasForeign := by
  rw [family_eq_ofSigns hname, Family.ofSigns_eq_text_iff, any_mentions_iff, any_mentions_iff,
    any_mentions_iff, any_isForeign_iff]

/-- Texts beside numbers or truth values leave nothing but an object. -/
theorem family_eq_object_of_mixed (htext : t.ShowsBelow .text)
    (hother : t.ShowsBelow .numeric ∨ t.ShowsBelow .boolean) : t.family = .object := by
  cases hfamily : t.family with
  | numeric => exact absurd htext ((family_eq_numeric_iff hname).mp hfamily).2
  | boolean => exact absurd htext ((family_eq_boolean_iff hname).mp hfamily).2.1
  | text =>
    obtain ⟨-, hnumeric, hboolean, -⟩ := (family_eq_text_iff hname).mp hfamily
    exact absurd hother (not_or.mpr ⟨hnumeric, hboolean⟩)
  | object => rfl

end

/-! ## Signals -/

/-- Which scalar families show in a type. -/
def signals (t : SchemaType) (f : ScalarFamily) : Bool := t.mentions f.holds

/-- The same signals occur in both lists, in any order and any number. -/
def SameSignals (ts us : List SchemaType) : Prop := ∀ s, s ∈ ts.map signals ↔ s ∈ us.map signals

/-- What is asked about the signals of members one by one has one answer for both lists. -/
theorem SameSignals.any_eq {ts us : List SchemaType} (h : SameSignals ts us)
    (asked : (ScalarFamily → Bool) → Bool) :
    (ts.any fun a => asked a.signals) = us.any fun a => asked a.signals := by
  have hmap (vs : List SchemaType) : (vs.any fun a => asked a.signals) = (vs.map signals).any asked := by
    rw [List.any_map]
    rfl
  rw [hmap, hmap, Bool.eq_iff_iff, List.any_eq_true, List.any_eq_true]
  exact exists_congr fun s => and_congr_left fun _ => h s

/-- The signals of a type are told by its kind and by the signals that occur among its members. -/
theorem signals_congr {t u : SchemaType} (hkind : ∀ f : ScalarFamily, f.holds t.kind = f.holds u.kind)
    (hargs : SameSignals t.args u.args) : t.signals = u.signals := by
  funext f
  rw [signals, signals, mentions_eq, mentions_eq, hkind f]
  exact congrArg _ (hargs.any_eq fun s => s f)

/-- **All that matters of the members is which signals occur.** -/
theorem SameSignals.ofMembers_eq {ts us : List SchemaType} (h : SameSignals ts us) :
    Family.ofMembers ts = Family.ofMembers us := by
  have hshows (f : ScalarFamily) :
      (ts.any fun a => a.mentions f.holds) = us.any fun a => a.mentions f.holds :=
    h.any_eq fun s => s f
  have hothers : (ts.any fun a => a.isForeign) = us.any fun a => a.isForeign :=
    h.any_eq fun s => !s .numeric && !s .boolean && !s .text
  rw [Family.ofMembers_eq, Family.ofMembers_eq, hshows .numeric, hshows .boolean, hshows .text, hothers]

/-! ## Edits -/

/-- A change of a type that leaves alone what it is built from: another spelling of its word, or another
    name, other values and another word on whether a value may be missing. -/
inductive Change : SchemaType → SchemaType → Prop
  | respelled {t : SchemaType} {word : String} (h : Respelled t.word word) : Change t { t with word }
  | redescribed (t : SchemaType) (declaredName : Option String) (values : Option (List Json))
      (optional : Bool) : Change t { t with declaredName, values, optional }

/-- An edit somewhere below a type. -/
inductive EditBelow : SchemaType → SchemaType → Prop
  /-- What the type is built from is reordered. -/
  | permuted {t : SchemaType} {args : List SchemaType} (h : t.args.Perm args) :
      EditBelow t { t with args }
  /-- One of the types that it is built from is repeated. -/
  | repeated {t a : SchemaType} {front back : List SchemaType} (h : t.args = front ++ a :: back) :
      EditBelow t { t with args := front ++ a :: a :: back }
  /-- One of them is changed. -/
  | changed {t a b : SchemaType} {front back : List SchemaType} (h : t.args = front ++ a :: back)
      (hab : Change a b) : EditBelow t { t with args := front ++ b :: back }
  /-- There is an edit below one of them. -/
  | deeper {t a b : SchemaType} {front back : List SchemaType} (h : t.args = front ++ a :: back)
      (hab : EditBelow a b) : EditBelow t { t with args := front ++ b :: back }

/-- **One edit.** Each type has an answer. A change of the type keeps it, and of what the type is built from
    it matters which answers occur, not how often or in which order. Then the answers that occur in what a
    type is built from survive an edit below it, and nothing else of the type is touched. By induction on how
    deep the edit is. -/
theorem EditBelow.sameAnswers {β : Type} {f : SchemaType → β}
    (hchange : ∀ {a b : SchemaType}, Change a b → f a = f b)
    (hargs : ∀ {t : SchemaType} {args : List SchemaType},
      (∀ y, y ∈ t.args.map f ↔ y ∈ args.map f) → f t = f { t with args })
    {t u : SchemaType} (h : EditBelow t u) :
    u = { t with args := u.args } ∧ ∀ y, y ∈ t.args.map f ↔ y ∈ u.args.map f := by
  induction h with
  | permuted hperm => exact ⟨rfl, fun _ => (hperm.map f).mem_iff⟩
  | repeated hparts =>
    refine ⟨rfl, fun y => ?_⟩
    rw [hparts]
    simp
  | changed hparts hab =>
    refine ⟨rfl, fun y => ?_⟩
    simp only [hparts, List.map_append, List.map_cons, hchange hab]
  | @deeper t a b front back hparts _ ih =>
    -- what the part is built from answers the same, and so the part itself does
    obtain ⟨hrest, hsame⟩ := ih
    have hanswer : f a = f b := (hargs hsame).trans (congrArg f hrest.symm)
    refine ⟨rfl, fun y => ?_⟩
    simp only [hparts, List.map_append, List.map_cons, hanswer]

/-- A change keeps the signals. -/
theorem Change.signals_eq {a b : SchemaType} (h : Change a b) : a.signals = b.signals := by
  cases h with
  | respelled hword => exact signals_congr hword.holds_eq fun _ => Iff.rfl
  | redescribed => exact signals_congr (fun _ => rfl) fun _ => Iff.rfl

/-- What an edit below a type keeps: the type itself, and the signals that occur in what it is built from. -/
structure KeptBelow (t u : SchemaType) : Prop where
  word_eq : t.word = u.word
  declaredName_eq : t.declaredName = u.declaredName
  sameSignals : SameSignals t.args u.args

theorem KeptBelow.family_eq {t u : SchemaType} (h : KeptBelow t u) : t.family = u.family := by
  have hname : t.name? = u.name? := by rw [name?, name?, h.declaredName_eq]
  rw [family, family, hname, h.sameSignals.ofMembers_eq]

theorem EditBelow.kept {t u : SchemaType} (h : EditBelow t u) : KeptBelow t u := by
  obtain ⟨hrest, hsame⟩ := h.sameAnswers Change.signals_eq fun hargs => signals_congr (fun _ => rfl) hargs
  rw [hrest]
  exact ⟨rfl, rfl, hsame⟩

/-- **Any number of edits,** done or undone. -/
theorem family_eq_of_edits {t u : SchemaType} (h : Relation.EqvGen EditBelow t u) : t.family = u.family := by
  induction h with
  | rel t u hedit => exact hedit.kept.family_eq
  | refl t => rfl
  | symm t u _ ih => exact ih.symm
  | trans t u v _ _ ih ih' => exact ih.trans ih'

/-! ## Main statement -/

/-- **A union is narrowed by the scalar kinds that occur below it.** No edit below a type changes its family,
    at whatever depth and in whatever number: neither another order nor repetition of what a type is built
    from, nor another spelling of a scalar word, nor another name, other values or another word on optional
    values. And a type without a telling name is numeric exactly if a numeric kind occurs below it and no
    text; it is boolean, or textual, exactly if a kind of that family occurs below it, none of the other two
    does, and no member is without a scalar kind; and a text beside a number or a truth value makes it an
    object. -/
theorem family_told_by_kinds_below (t : SchemaType) :
    (∀ u, Relation.EqvGen EditBelow t u → u.family = t.family) ∧
    (t.name?.bind Family.ofHint = none →
      (t.family = .numeric ↔ t.ShowsBelow .numeric ∧ ¬ t.ShowsBelow .text) ∧
      (t.family = .boolean ↔
        t.ShowsBelow .boolean ∧ ¬ t.ShowsBelow .text ∧ ¬ t.ShowsBelow .numeric ∧ ¬ t.HasForeign) ∧
      (t.family = .text ↔
        t.ShowsBelow .text ∧ ¬ t.ShowsBelow .numeric ∧ ¬ t.ShowsBelow .boolean ∧ ¬ t.HasForeign) ∧
      (t.ShowsBelow .text → t.ShowsBelow .numeric ∨ t.ShowsBelow .boolean → t.family = .object)) := by
  refine ⟨fun u hedits => (family_eq_of_edits hedits).symm, fun hname => ?_⟩
  exact ⟨family_eq_numeric_iff hname, family_eq_boolean_iff hname, family_eq_text_iff hname,
    family_eq_object_of_mixed hname⟩

/-- A list of doubles beside truth values: the word in the list is respelled, and the members change
    places. -/
theorem family_told_by_kinds_below_list :
    let listOf (word : String) : SchemaType := { ofWord "list" with args := [ofWord word] }
    let t := union [listOf "float", ofWord "bool"]
    let u := union [ofWord "bool", listOf "INT"]
    Relation.EqvGen EditBelow t u ∧ t.name?.bind Family.ofHint = none ∧
      u.family = t.family ∧ t.ShowsBelow .numeric ∧ ¬ t.ShowsBelow .text := by
  intro listOf t u
  have hitem (word : String) : (listOf word).args = [] ++ ofWord word :: [] := rfl
  have hfirst (a : SchemaType) : (union [a, ofWord "bool"]).args = [] ++ a :: [ofWord "bool"] := rfl
  have hsynonym : Change (ofWord "float") (ofWord "int") :=
    .respelled (.synonym (f := .numeric) (by decide) (by decide))
  have hcase : Change (ofWord "int") (ofWord "INT") := .respelled (.letterCase (by decide))
  have hinner : EditBelow t (union [listOf "int", ofWord "bool"]) :=
    .deeper (hfirst _) (.changed (hitem _) hsynonym)
  have hinner' : EditBelow (union [listOf "int", ofWord "bool"]) (union [listOf "INT", ofWord "bool"]) :=
    .deeper (hfirst _) (.changed (hitem _) hcase)
  have hswap : EditBelow (union [listOf "INT", ofWord "bool"]) u := .permuted (.swap _ _ _)
  have hedits : Relation.EqvGen EditBelow t u :=
    .trans _ _ _ (.rel _ _ hinner) (.trans _ _ _ (.rel _ _ hinner') (.rel _ _ hswap))
  have hname : t.name?.bind Family.ofHint = none := rfl
  obtain ⟨hsame, hexact⟩ := family_told_by_kinds_below t
  obtain ⟨hnumeric, htext⟩ := (hexact hname).1.mp rfl
  exact ⟨hedits, hname, hsame u hedits, hnumeric, htext⟩

end SchemaType

end PinTypes
