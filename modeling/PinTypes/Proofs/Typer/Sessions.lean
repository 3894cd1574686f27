import PinTypes.Proofs.Enumeration.Orders
import PinTypes.Proofs.Typer.Kinds

/-!
# `PinTypes.Proofs.Typer.Sessions` — typers that share a mint

Several typers, each with a catalog and settings of its own, can be given one mint in turn, and orders can
go to it directly in between. A call of a typer reaches the mint at one place only, where the kind is
decided: the reply is made of that kind and of what the call says (`Typer.reply_eq`), and the mint is left
as the decision leaves it (`Typer.mint_reply`). So what is known about `Typer.kindFor` is known about every
call, whichever of the four it is.

One use keeps a mint sound and gives nothing up (`Mint.afterUse_sound`), hence a whole session does
(`Mint.afterUses_sound`). That is all it takes for a call to be answered the same way later on: its type is
still kept, and nothing else about the mint has a part in the answer.

## Contents
- **Calls.** `Typer.Call`, `Typer.Reply`, `Typer.reply`, `Typer.reply_eq`, `Typer.mint_reply`.
- **Sessions.** `Mint.Use`, `Mint.afterUses`, `Mint.afterUses_sound`.
- **Main statement.** `Typer.calls_share_mint`.
-/

namespace PinTypes

namespace Typer

/-! ## Calls -/

/-- What a typer can be asked. -/
inductive Call where
  | type (s : SchemaType) (default : Option Json)
  | typePin (pin : String) (s : SchemaType) (default : Option Json)
  | describe (pin : String) (s : SchemaType) (default : Option Json)
  | kindOf (s : SchemaType)

/-- The schema type that a call is about. -/
def Call.schema : Call → SchemaType
  | type s _ | typePin _ s _ | describe _ s _ | kindOf s => s

/-- The name of the pin that a call is about. -/
def Call.pin? : Call → Option String
  | type _ _ | kindOf _ => none
  | typePin pin _ _ | describe pin _ _ => some pin

/-- The call for the schema type with other types that it is built from. -/
def Call.withArgs (args : List SchemaType) : Call → Call
  | type s default => type { s with args } default
  | typePin pin s default => typePin pin { s with args } default
  | describe pin s default => describe pin { s with args } default
  | kindOf s => kindOf { s with args }

@[simp] theorem Call.schema_withArgs (c : Call) (args : List SchemaType) :
    (c.withArgs args).schema = { c.schema with args } := by
  cases c <;> rfl

@[simp] theorem Call.pin?_withArgs (c : Call) (args : List SchemaType) :
    (c.withArgs args).pin? = c.pin? := by
  cases c <;> rfl

/-- What a typer replies. -/
inductive Reply where
  | typed (typed : TypedPin)
  | described (pin : Pin)
  | decided (kind : PinKind)

/-- The kind that a reply tells. -/
def Reply.kind : Reply → PinKind
  | typed p => p.kind
  | described p => p.kind
  | decided k => k

/-- The reply to a call, and the mint after it. -/
def reply (t : Typer) (m : Mint) : Call → Reply × Mint
  | .type s default => (t.type s default m).map .typed id
  | .typePin pin s default => (t.typePin pin s default m).map .typed id
  | .describe pin s default => (t.describe pin s default m).map .described id
  | .kindOf s => (t.kindOf s m).map .decided id

/-- The reply to a call once the kind is decided. -/
def replyWith (t : Typer) (k : PinKind) : Call → Reply
  | .type s default | .typePin _ s default => .typed ⟨k, .initial k default, s.optional⟩
  | .describe pin _ default =>
    .described { Pin.plain pin k (.initial k default) with cleansHelp := t.settings.cleansHelp }
  | .kindOf _ => .decided k

@[simp] theorem kind_replyWith (t : Typer) (k : PinKind) (c : Call) : (t.replyWith k c).kind = k := by
  cases c <;> rfl

/-- **A call decides a kind, and no more.** All else in the reply is made of the kind. -/
theorem reply_eq (t : Typer) (m : Mint) (c : Call) :
    (t.reply m c).1 = t.replyWith (t.kindFor c.pin? c.schema m).1 c := by
  cases c <;> simp only [reply, type, typePin, kindOf, typeFor_eq, describe_eq, Prod.map_fst, replyWith,
    Call.pin?, Call.schema]

/-- The mint after a call is the one that deciding the kind leaves. -/
theorem mint_reply (t : Typer) (m : Mint) (c : Call) :
    (t.reply m c).2 = (t.kindFor c.pin? c.schema m).2 := by
  cases c <;> simp only [reply, type, typePin, kindOf, typeFor_eq, describe_eq, Prod.map_snd, id,
    Call.pin?, Call.schema]

theorem kind_reply (t : Typer) (m : Mint) (c : Call) :
    (t.reply m c).1.kind = (t.kindFor c.pin? c.schema m).1 := by
  rw [reply_eq, kind_replyWith]

theorem reply_sound {m : Mint} (h : m.Sound) (t : Typer) (c : Call) :
    (t.reply m c).2.Sound ∧ m.Grows (t.reply m c).2 := by
  rw [mint_reply]
  exact kindFor_sound h t c.pin? c.schema

end Typer

/-! ## Sessions -/

namespace Mint

/-- A use of a mint: an order to it, or a call of some typer that it is given to. -/
inductive Use where
  | order (o : Order)
  | call (t : Typer) (c : Typer.Call)

/-- The mint after a use. -/
def afterUse (m : Mint) : Use → Mint
  | .order o => (m.answer o).2
  | .call t c => (t.reply m c).2

/-- The mint after a session. -/
def afterUses (m : Mint) (uses : List Use) : Mint := uses.foldl afterUse m

/-- **One use.** -/
theorem afterUse_sound {m : Mint} (h : m.Sound) (use : Use) :
    (m.afterUse use).Sound ∧ m.Grows (m.afterUse use) := by
  cases use with
  | order o => exact answer_sound h o
  | call t c => exact Typer.reply_sound h t c

/-- **A session.** A sound mint stays sound and gives nothing up. -/
theorem afterUses_sound {m : Mint} (h : m.Sound) (uses : List Use) :
    (m.afterUses uses).Sound ∧ m.Grows (m.afterUses uses) := by
  induction uses generalizing m with
  | nil => exact ⟨h, Grows.refl m⟩
  | cons use uses ih =>
    obtain ⟨hsound, hgrows⟩ := afterUse_sound h use
    obtain ⟨hsound', hgrows'⟩ := ih hsound
    exact ⟨hsound', hgrows.trans hgrows'⟩

end Mint

namespace Typer

/-- **A call is answered the same way later on**, and then nothing is made for it. -/
theorem reply_again {m : Mint} (h : m.Sound) (t : Typer) (c : Call) {n : Mint}
    (hgrows : (t.reply m c).2.Grows n) : t.reply n c = ((t.reply m c).1, n) := by
  rw [mint_reply] at hgrows
  have hagain := kindFor_again h hgrows
  apply Prod.ext
  · rw [reply_eq, reply_eq, hagain]
  · rw [mint_reply, hagain]

/-- A type that has a name of its own is decided on in the same way by every call, then and later on. -/
theorem kind_reply_of_name {m : Mint} (h : m.Sound) (t : Typer) {c d : Call}
    (hsame : d.schema = c.schema) {name : String} (hname : c.schema.name? = some name) {n : Mint}
    (hgrows : (t.reply m c).2.Grows n) : (t.reply n d).1.kind = (t.reply m c).1.kind := by
  rw [mint_reply] at hgrows
  rw [kind_reply, kind_reply, hsame, kindFor_pin_irrelevant hname t d.pin? c.pin?,
    kindFor_again h hgrows]

/-! ## Main statement -/

/-- **Typers that share a mint do not disturb each other.** After any session of a new mint, take a call of
    any typer. The mint is asked for the name that is resolved from the declared one, the fallback for the pin
    and the default of the mint, and for the keys of the values. If the call needs the mint and that name with
    those keys is not known there, exactly one type is made, of that name and those keys, and all others stand
    where they stood; otherwise nothing changes; and the types that its schema type is built from have no part
    in that. After any session that follows, the same call is replied to with the same, and leaves the mint as
    it is. So is every other call of the typer for that schema type, as for the kind, if the schema type has a
    name. -/
theorem calls_share_mint (source : Nat) (defaultName : String) (before : List Mint.Use) (t : Typer)
    (c : Call) :
    let m := (Mint.named source defaultName).afterUses before
    let n := (t.reply m c).2
    let asked := t.signatureFor c.pin? c.schema m
    (∀ (name : String) (keys : List String), asked = (name, keys) ↔
      Mint.NameOf defaultName c.schema.name? (t.settings.fallbackName c.pin?) name ∧
        c.schema.scalars.map Scalar.key = keys) ∧
    (t.NeedsMint c.schema ∧ ¬ m.Knows asked → m.AddsOne n asked) ∧
    (¬ (t.NeedsMint c.schema ∧ ¬ m.Knows asked) → n = m) ∧
    (∀ args : List SchemaType, (t.reply m (c.withArgs args)).2 = n) ∧
    ∀ between : List Mint.Use,
      let later := n.afterUses between
      t.reply later c = ((t.reply m c).1, later) ∧
      ∀ d : Call, d.schema = c.schema → ∀ name : String, c.schema.name? = some name →
        (t.reply later d).1.kind = (t.reply m c).1.kind := by
  intro m n asked
  obtain ⟨hm, hbegun⟩ := Mint.afterUses_sound (Mint.named_sound source defaultName) before
  have hn : n = (t.kindFor c.pin? c.schema m).2 := t.mint_reply m c
  refine ⟨fun name keys => signatureFor_eq_iff hbegun.defaultName_eq, ?_, ?_, ?_, ?_⟩
  · rintro ⟨hneeds, hnew⟩
    rw [hn]
    exact kindFor_addsOne hm hneeds hnew
  · intro hidle
    rw [hn]
    exact kindFor_unchanged hidle
  · intro args
    rw [hn, mint_reply, Call.pin?_withArgs, Call.schema_withArgs, kindFor_args]
  · intro between later
    have hgrows : n.Grows later := (Mint.afterUses_sound (reply_sound hm t c).1 between).2
    refine ⟨reply_again hm t c hgrows, ?_⟩
    intro d hsame name hname
    exact kind_reply_of_name hm t hsame hname hgrows

/-- A new mint makes one type for the pin of a named type, and has it for the type without the pin. -/
theorem calls_share_mint_level :
    let t : Typer := ⟨.empty 0, {}⟩
    let s := SchemaType.enumeration "Level" [.string "low", .string "high"]
    let m := Mint.named 0 "Choice"
    let n := (t.reply m (.typePin "gain" s none)).2
    t.NeedsMint s ∧ ¬ m.Knows (t.signatureFor (some "gain") s m) ∧ s.name? = some "Level" ∧
      n.stats = ⟨1, 1⟩ ∧
      (t.reply n (.kindOf s)).1.kind = (t.reply m (.typePin "gain" s none)).1.kind := by
  intro t s m n
  have hneeds : t.NeedsMint s := needsMint_of_empty 0 {} "Level" (by simp)
  have hnew : ¬ m.Knows (t.signatureFor (some "gain") s m) :=
    fun ⟨_, hkept, _⟩ => Mint.not_keeps_named hkept
  have hname : s.name? = some "Level" := by decide
  obtain ⟨-, hadds, -, -, hlater⟩ := calls_share_mint 0 "Choice" [] t (.typePin "gain" s none)
  have hstats := (hadds ⟨hneeds, hnew⟩).stats_eq
  have hsame := (hlater []).2 (.kindOf s) rfl "Level" hname
  exact ⟨hneeds, hnew, hname, hstats, hsame⟩

end Typer

end PinTypes
