import RuleMachine.Proofs.Grammar.Fuel

/-!
# What reading keeps

A property of cursors that no move loses (`Cursor.Stable`) holds of every cursor that reading comes
to, in a group too. So what is noted at such cursors, and what errors say of them, can be relied on
as well: from a cursor with the property every reply is one that keeps all three
(`Production.parse_keeps`).
-/

namespace RuleMachine

/-- A property of cursors that is kept where line breaks, a node or a part of a symbol are passed,
and where a group is entered. -/
structure Cursor.Stable (P : Cursor → Prop) : Prop where
  skipLines {c : Cursor} : P c → P c.skipLines
  next {c : Cursor} : P c → P c.next
  split {c : Cursor} {t : Token Value} {n : Nat} : P c → c.token? = some t → t.isSymbol →
    c.split + n < t.text.length → P { c with split := c.split + n }
  inside {c : Cursor} {opener closer : Token Value} {children rest : List (Node Value)} : P c →
    c.nodes = .group opener closer children :: rest →
    P { nodes := children, stop := closer.position }

/-- A reply whose cursor, notes and error have the properties wanted of them. -/
def Reply.Keeps {ρ α : Type} (P : Cursor → Prop) (Q : ρ → Prop) (E : ParseError → Prop) :
    Reply ρ α → Prop
  | .ok _ c f => P c ∧ Q f
  | .mismatch f => Q f
  | .fatal e => E e
  | .exhausted => True

namespace Parse

variable {ρ α β : Type} {P : Cursor → Prop} {Q : ρ → Prop} {E : ParseError → Prop}

/-- From cursors and notes with the properties, all replies have them. -/
def Keeps (P : Cursor → Prop) (Q : ρ → Prop) (E : ParseError → Prop) (p : Parse ρ α) : Prop :=
  ∀ ⦃c f⦄, P c → Q f → (p c f).Keeps P Q E

/-- A terminal passes a node or a part of a symbol. -/
theorem terminal?_moves {c d : Cursor} {x : Terminal α} {a : α}
    (h : terminal? c x = some (a, d)) :
    d = c.next ∨ ∃ t n, c.token? = some t ∧ t.isSymbol ∧ c.split + n < t.text.length ∧
      d = { c with split := c.split + n } := by
  cases x with
  | symbol text =>
    simp only [terminal?, Option.bind_eq_bind, Option.bind_eq_some_iff] at h
    obtain ⟨t, front, h⟩ := h
    split at h
    · next fits =>
      obtain ⟨-, rfl⟩ := Prod.mk.inj (Option.some.inj h)
      split
      · exact .inl rfl
      · next inside =>
        exact .inr ⟨t, _, front, (Bool.and_eq_true_iff.mp fits).1, Nat.lt_of_not_le inside, rfl⟩
    · cases h
  | word | name | ident | quoted | number | callable | literal =>
    left
    simp only [terminal?, Option.bind_eq_bind, Option.bind_eq_some_iff] at h
    obtain ⟨t, -, h⟩ := h
    grind

theorem Keeps.goes (a : α) {d : Cursor → Cursor} (moves : ∀ {c}, P c → P (d c)) :
    Keeps P Q E fun c (f : ρ) => .ok a (d c) f :=
  fun _ _ here noted => ⟨moves here, noted⟩

theorem Keeps.pure (a : α) : Keeps P Q E fun c (f : ρ) => .ok a c f := .goes a id

variable {p : Parse ρ α}

theorem Keeps.andThen {q : α → Parse ρ β} (hp : Keeps P Q E p) (hq : ∀ a, Keeps P Q E (q a)) :
    Keeps P Q E (andThen p q) := by
  intro c f here noted
  have first := hp here noted
  unfold Parse.andThen
  generalize p c f = reply at first ⊢
  cases reply with
  | ok a d g => exact hq a first.1 first.2
  | mismatch | fatal | exhausted => exact first

theorem Keeps.either {q : α → Parse ρ β} {r : Parse ρ β} (hp : Keeps P Q E p)
    (hq : ∀ a, Keeps P Q E (q a)) (hr : Keeps P Q E r) : Keeps P Q E (either p q r) := by
  intro c f here noted
  have first := hp here noted
  unfold Parse.either
  generalize p c f = reply at first ⊢
  cases reply with
  | ok a d g => exact hq a first.1 first.2
  | mismatch g => exact hr here first
  | fatal | exhausted => exact first

theorem Keeps.ite {q : Parse ρ α} (b : Cursor → Bool) (hp : Keeps P Q E p)
    (hq : Keeps P Q E q) : Keeps P Q E fun c f => if b c then p c f else q c f := by
  intro c f here noted
  dsimp only
  split
  · exact hp here noted
  · exact hq here noted

theorem Keeps.many (hp : Keeps P Q E p) (fuel : Nat) : Keeps P Q E (many p fuel) := by
  induction fuel with
  | zero => exact .pure []
  | succ fuel ih =>
    intro c f here noted
    refine hp.either (fun a => ?_) (.pure []) here noted
    exact .ite (·.sameAs c) (.pure [a]) (ih.andThen fun as => .pure (a :: as))

theorem Keeps.lineList (hp : Keeps P Q E p) (fuel : Nat) : Keeps P Q E (lineList p fuel) := by
  induction fuel with
  | zero => exact .pure []
  | succ fuel ih =>
    exact .ite (·.atLineOrEnd) (.pure [])
      (hp.either (fun a => ih.andThen fun as => .pure (a :: as)) (.pure []))

variable (stable : Cursor.Stable P)
include stable

theorem Keeps.skipLines (hp : Keeps P Q E p) : Keeps P Q E fun c => p c.skipLines :=
  fun _ _ here noted => hp (stable.skipLines here) noted

variable [Notepad ρ] (notes : ∀ {f : ρ} {c : Cursor} {what : String}, P c → Q f →
  Q (Notepad.note f c what))
include notes

omit stable in
theorem Keeps.want (what : String) : Keeps P Q E (want what : Parse ρ α) :=
  fun _ _ here noted => notes here noted

theorem Keeps.terminal (x : Terminal α) : Keeps P Q E (terminal x : Parse ρ α) := by
  intro c f here noted
  have skipped := stable.skipLines here
  unfold Parse.terminal
  split
  · next a d taken =>
    refine ⟨?_, noted⟩
    rcases terminal?_moves taken with rfl | ⟨t, n, front, symbol, inside, rfl⟩
    · exact stable.next skipped
    · exact stable.split skipped front symbol inside
  · exact notes skipped noted

theorem Keeps.commaRest (hp : Keeps P Q E p) (fuel : Nat) : Keeps P Q E (commaRest p fuel) := by
  induction fuel with
  | zero => exact .pure []
  | succ fuel ih =>
    refine (Keeps.terminal stable notes (.symbol ",")).either (fun _ => ?_) (.pure [])
    exact .ite (·.skipLines.nodes.isEmpty) (.skipLines stable (.pure []))
      (.skipLines stable (hp.andThen fun a => ih.andThen fun as => .pure (a :: as)))

theorem Keeps.commaList (hp : Keeps P Q E p) : Keeps P Q E (commaList p) := by
  refine .ite (·.skipLines.nodes.isEmpty) (.skipLines stable (.pure []))
    (.skipLines stable (hp.andThen fun a => ?_))
  intro c f here noted
  exact (Keeps.commaRest stable notes hp c.steps).andThen (fun as => .pure (a :: as)) here noted

theorem Keeps.finish (what : String) : Keeps P Q E (finish what : Parse ρ Unit) := by
  intro c f here noted
  have skipped := stable.skipLines here
  unfold Parse.finish
  split
  · exact ⟨skipped, noted⟩
  · exact notes skipped noted

theorem Keeps.group (b : Bracket) (hp : Keeps P Q E p) : Keeps P Q E (group b p) := by
  intro c f here noted
  have skipped := stable.skipLines here
  simp only [Parse.group]
  split
  · next opener closer children rest nodes =>
    split
    · refine hp.andThen (fun a => ?_) (stable.inside skipped nodes) noted
      refine (Keeps.finish stable notes _).andThen fun _ => ?_
      exact fun _ _ _ noted => ⟨stable.next skipped, noted⟩
    · exact notes skipped noted
  · exact notes skipped noted

theorem Keeps.refuse (refused : ∀ {c : Cursor} {feature : String}, P c →
    E (.unsupported feature c.position)) (keyword feature : String) {p : Parse ρ Unit}
    {r : Parse ρ α} (hp : Keeps P Q E p) (hr : Keeps P Q E r) :
    Keeps P Q E (refuse keyword feature p r) := by
  intro c f here noted
  have skipped := stable.skipLines here
  refine (Keeps.terminal stable notes (.word keyword)).either (fun _ => ?_) hr skipped noted
  exact hp.andThen fun _ _ _ _ _ => refused skipped

end Parse

variable {ρ : Type} [Notepad ρ] {P : Cursor → Prop} {Q : ρ → Prop} {E : ParseError → Prop}
  {ν : Type → Type}

/-- Whether every production in a phrase is one of some, and nothing in it is refused for want of a
meaning unless that is `allowed`. -/
def Phrase.within (some : {α : Type} → ν α → Bool) (allowed : Bool) :
    {α : Type} → Phrase ν α → Bool
  | _, .production n => some n
  | _, .seq p q => p.within some allowed && q.within some allowed
  | _, .choose p q r =>
    p.within some allowed && q.within some allowed && r.within some allowed
  | _, .many p | _, .commaList p | _, .lineList p | _, .group _ p => p.within some allowed
  | _, .refuse _ _ p r => allowed && p.within some allowed && r.within some allowed
  | _, .pure _ | _, .terminal _ | _, .fail _ | _, .finish _ => true

theorem Phrase.within_all {α : Type} (p : Phrase ν α) :
    p.within (fun _ => true) true := by
  induction p <;> simp [within, *]

theorem Phrase.parse_keeps_within (stable : Cursor.Stable P)
    (notes : ∀ {f : ρ} {c : Cursor} {what : String}, P c → Q f → Q (Notepad.note f c what))
    {some : {α : Type} → ν α → Bool} {allowed : Bool}
    (refused : allowed → ∀ {c : Cursor} {feature : String}, P c →
      E (.unsupported feature c.position))
    {call : {α : Type} → ν α → Parse ρ α}
    (hcall : ∀ {α} (n : ν α), some n → Parse.Keeps P Q E (call n)) {α : Type} (p : Phrase ν α)
    (h : p.within some allowed) : Parse.Keeps P Q E (p.parse call) := by
  induction p with
  | pure a => exact .pure a
  | terminal x => exact .terminal stable notes x
  | production n => exact hcall n h
  | fail what =>
    cases what with
    | some what => exact .want notes what
    | none => exact fun _ _ _ noted => noted
  | seq p q ihp ihq =>
    obtain ⟨hp, hq⟩ := Bool.and_eq_true_iff.mp h
    exact (ihp hp).andThen fun g => (ihq hq).andThen fun a => .pure (g a)
  | choose p q r ihp ihq ihr =>
    obtain ⟨h, hr⟩ := Bool.and_eq_true_iff.mp h
    obtain ⟨hp, hq⟩ := Bool.and_eq_true_iff.mp h
    exact (ihp hp).either (fun a => (ihq hq).andThen fun g => .pure (g a)) (ihr hr)
  | many p ih => exact fun c _ here noted => (ih h).many c.steps here noted
  | commaList p ih => exact .commaList stable notes (ih h)
  | lineList p ih => exact fun c _ here noted => (ih h).lineList c.steps here noted
  | group b p ih => exact .group stable notes b (ih h)
  | refuse keyword feature p r ihp ihr =>
    obtain ⟨h, hr⟩ := Bool.and_eq_true_iff.mp h
    obtain ⟨allowed, hp⟩ := Bool.and_eq_true_iff.mp h
    exact .refuse stable notes (refused allowed) keyword feature (ihp hp) (ihr hr)
  | finish what => exact .finish stable notes what

theorem Phrase.parse_keeps (stable : Cursor.Stable P)
    (notes : ∀ {f : ρ} {c : Cursor} {what : String}, P c → Q f → Q (Notepad.note f c what))
    (refused : ∀ {c : Cursor} {feature : String}, P c → E (.unsupported feature c.position))
    {call : {α : Type} → ν α → Parse ρ α}
    (hcall : ∀ {α} (n : ν α), Parse.Keeps P Q E (call n)) {α : Type} (p : Phrase ν α) :
    Parse.Keeps P Q E (p.parse call) :=
  p.parse_keeps_within stable notes (fun _ => refused) (fun n _ => hcall n) p.within_all

theorem Production.parse_keeps (stable : Cursor.Stable P)
    (notes : ∀ {f : ρ} {c : Cursor} {what : String}, P c → Q f → Q (Notepad.note f c what))
    (refused : ∀ {c : Cursor} {feature : String}, P c → E (.unsupported feature c.position))
    (fuel : Nat) {α : Type} (n : Production α) : Parse.Keeps P Q E (n.parse fuel) := by
  induction fuel generalizing α with
  | zero => exact fun _ _ _ _ => trivial
  | succ fuel ih => exact n.phrase.parse_keeps stable notes refused fun n => ih n

/-! ## Parts of the grammar in which nothing is refused -/

/-- Nothing is refused for want of a meaning by productions that refuse nothing and use each other
only. -/
theorem Production.parse_not_fatal {some : {α : Type} → Production α → Bool}
    (closed : ∀ {α : Type} (n : Production α), some n → n.phrase.within some false) (fuel : Nat)
    {α : Type} (n : Production α) (h : some n) (c : Cursor) (f : ρ) (e : ParseError) :
    n.parse fuel c f ≠ .fatal e := by
  have stable : Cursor.Stable fun _ => True :=
    ⟨fun _ => trivial, fun _ => trivial, fun _ _ _ _ => trivial, fun _ _ => trivial⟩
  have keeps : Parse.Keeps (fun _ => True) (fun _ : ρ => True) (fun _ => False)
      (n.parse fuel) := by
    induction fuel generalizing α with
    | zero => exact fun _ _ _ _ => trivial
    | succ fuel ih =>
      exact n.phrase.parse_keeps_within stable (fun _ _ => trivial) nofun ih (closed n h)
  intro fatal
  have kept := keeps (c := c) (f := f) trivial trivial
  rw [fatal] at kept
  exact kept

/-- The productions of conditions and expressions. -/
def Production.ofCond : {α : Type} → Production α → Bool
  | _, orCond | _, andCond | _, cond | _, comparison | _, tagExpr | _, expr | _, product | _, power
  | _, operand | _, exprField | _, literal | _, fieldKey => true
  | _, _ => false

theorem Production.within_ofCond {α : Type} (n : Production α) (h : n.ofCond) :
    n.phrase.within ofCond false := by
  cases n <;> first | rfl | cases h

theorem Production.read_not_fatal {α : Type} (n : Production α) (h : n.ofCond) (c : Cursor) (f : ρ)
    (e : ParseError) : n.read c f ≠ .fatal e :=
  parse_not_fatal within_ofCond _ n h c f e

/-- The productions of what a state is matched with. -/
def Production.ofState : {α : Type} → Production α → Bool
  | _, orState | _, andState | _, state | _, tagPattern | _, pattern | _, patternField => true
  | _, n => n.ofCond

theorem Production.within_ofState {α : Type} (n : Production α) (h : n.ofState) :
    n.phrase.within ofState false := by
  cases n <;> first | rfl | cases h

theorem Production.state_not_fatal (c : Cursor) (f : ρ) (e : ParseError) :
    Production.state.read c f ≠ .fatal e :=
  parse_not_fatal within_ofState _ .state rfl c f e

end RuleMachine
