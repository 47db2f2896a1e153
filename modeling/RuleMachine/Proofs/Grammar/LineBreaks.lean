import RuleMachine.Proofs.Grammar.Beside
import RuleMachine.Proofs.Grammar.Fuel
import RuleMachine.Template

/-!
# Line breaks

A line break may be put into a tree nearly everywhere without changing what the tree is read as
(`Tree.program_inserted`): only between a node that is no symbol and a name or a string it may end
the fields of a tagged form. That fields are looked for from firm cursors only is checked of the
phrase of each production (`Phrase.ready`).
-/

namespace RuleMachine

/-! ## Phrases -/

namespace Phrase

variable {ν : Type → Type} {α : Type}

def isPure : {α : Type} → Phrase ν α → Bool
  | _, .pure _ => true
  | _, _ => false

/-- Whether something is asked for at the cursor where the phrase does not fit. -/
def asks : {α : Type} → Phrase ν α → Bool
  | _, .terminal _ => true
  | _, .seq p q => p.isPure && q.asks
  | _, _ => false

/-- Whether the phrase begins with a name or a string. -/
def needsKey (keyed : {α : Type} → ν α → Bool) : {α : Type} → Phrase ν α → Bool
  | _, .terminal .ident | _, .terminal .quoted => true
  | _, .production n => keyed n
  | _, .seq p q => p.needsKey keyed || p.isPure && q.needsKey keyed
  | _, .choose p _ r => p.needsKey keyed && r.needsKey keyed
  | _, _ => false

/-- Whether the phrase leads to firm cursors, from firm ones if `b`. -/
def firm (settled : {α : Type} → ν α → Bool) (b : Bool) : {α : Type} → Phrase ν α → Bool
  | _, .pure _ => b
  | _, .terminal x => x.whole
  | _, .production n => settled n
  | _, .seq p q => q.firm settled (p.firm settled b)
  | _, .choose p q r => q.firm settled (p.firm settled b) && r.firm settled b
  | _, .many p => b && p.firm settled false
  | _, .refuse _ _ _ r => r.firm settled false
  | _, .fail _ | _, .lineList _ | _, .group _ _ => true
  | _, .commaList _ | _, .finish _ => false

/-- Whether the phrase looks for fields from firm cursors only and fails only after something was
asked for. -/
def ready (settled keyed : {α : Type} → ν α → Bool) (b : Bool) (k : Notice) :
    {α : Type} → Phrase ν α → Bool
  | _, .pure _ | _, .terminal _ | _, .production _ | _, .finish _ => true
  | _, .fail what => k = .asked || what.isNone && k = .same
  | _, .seq p q => p.ready settled keyed b k && q.ready settled keyed (p.firm settled b) .near
  | _, .choose p q r =>
    p.ready settled keyed b k && q.ready settled keyed (p.firm settled b) .near &&
      r.ready settled keyed b (bif p.asks then .asked else .same)
  | _, .many p => p.consumes && p.ready settled keyed false .near
  | _, .commaList p | _, .group _ p => p.ready settled keyed false .near
  | _, .lineList p =>
    b && p.consumes && p.ready settled keyed false .near && p.firm settled false && p.needsKey keyed
  | _, .refuse _ _ p r => p.ready settled keyed true .near && r.ready settled keyed false .asked

variable {call : {α : Type} → ν α → Parse Furthest α}

theorem eq_pure_of_isPure {p : Phrase ν α} (h : p.isPure) : ∃ a, p = .pure a := by
  cases p with
  | pure a => exact ⟨a, rfl⟩
  | _ => cases h

theorem parse_asks (p : Phrase ν α) (h : p.asks) : (p.parse call).Asks := by
  induction p with
  | terminal x => exact .terminal x
  | seq p q _ ihq =>
    obtain ⟨pure, asks⟩ := Bool.and_eq_true_iff.mp h
    obtain ⟨g, rfl⟩ := eq_pure_of_isPure pure
    intro c f e mismatch
    simp only [Phrase.parse, Parse.andThen] at mismatch
    split at mismatch
    · cases mismatch
    · next h =>
      cases mismatch
      exact ihq asks h
    · cases mismatch
    · cases mismatch
  | _ => cases h

end Phrase

namespace Parse.NeedsKey

variable {α β : Type} {p : Parse Furthest α}

/-- A whole token that is no key does not fit where only keys do. -/
theorem terminal {x : Terminal α} (whole : x.whole)
    (key : ∀ t a, x.value? t = some a → (Node.token t).isKey) : NeedsKey (Parse.terminal x) := by
  intro c f valid none
  refine .inr ⟨f.note c.skipLines (wanted x), ?_, fun f' near => near.note_left rfl⟩
  unfold Parse.terminal
  rw [terminal?_eq valid.skipLines whole]
  cases value : c.skipLines.token?.bind x.value? with
  | none => rfl
  | some a =>
    obtain ⟨t, front, value⟩ := Option.bind_eq_some_iff.mp value
    obtain ⟨rest, nodes⟩ := Cursor.nodes_of_token? front
    rw [nodes] at none
    exact absurd (key t a value) (by simp [none _ rfl])

theorem andThen (h : NeedsKey p) (q : α → Parse Furthest β) : NeedsKey (Parse.andThen p q) := by
  intro c f valid none
  unfold Parse.andThen
  rcases h valid none with cut | ⟨g, other, near⟩
  · exact .inl (by rw [cut])
  · exact .inr ⟨g, by rw [other], near⟩

theorem either {r : Parse Furthest β} (h : NeedsKey p) (q : α → Parse Furthest β)
    (hr : NeedsKey r) : NeedsKey (Parse.either p q r) := by
  intro c f valid none
  unfold Parse.either
  rcases h (f := f) valid none with cut | ⟨g, other, near⟩
  · exact .inl (by rw [cut])
  rw [other]
  rcases hr (f := g) valid none with cut | ⟨g', other', near'⟩
  · exact .inl cut
  · exact .inr ⟨g', other', fun f' noted => near' f' (near f' noted)⟩

end Parse.NeedsKey

namespace Phrase

variable {ν : Type → Type} {α : Type} {call : {α : Type} → ν α → Parse Furthest α}

theorem parse_needsKey {keyed : {α : Type} → ν α → Bool}
    (hcall : ∀ {α} (n : ν α), keyed n → (call n).NeedsKey) (p : Phrase ν α)
    (h : p.needsKey keyed) : (p.parse call).NeedsKey := by
  induction p with
  | terminal x =>
    cases x with
    | ident =>
      refine .terminal rfl fun t a value => ?_
      have name := (Option.filter_eq_some_iff.mp value).1
      simp [Node.isKey, Terminal.value?, name]
    | quoted => exact .terminal rfl fun t a value => by simp [Node.isKey, value]
    | _ => cases h
  | production n => exact hcall n h
  | seq p q ihp ihq =>
    rcases Bool.or_eq_true_iff.mp h with first | second
    · exact (ihp first).andThen _
    · obtain ⟨pure, second⟩ := Bool.and_eq_true_iff.mp second
      obtain ⟨g, rfl⟩ := eq_pure_of_isPure pure
      exact (ihq second).andThen _
  | choose p q r ihp _ ihr =>
    obtain ⟨first, other⟩ := Bool.and_eq_true_iff.mp h
    exact (ihp first).either _ (ihr other)
  | _ => cases h

variable {line : Token Value} {ordered : Prop} {settled keyed : {α : Type} → ν α → Bool}

/-- Where productions come to the same, so do phrases. -/
theorem parse_beside (isLine : line.isLine) (goes : ∀ {α} (n : ν α), Parse.Goes true (call n))
    (hcall : ∀ {α} (n : ν α), Parse.Beside line ordered false .near (settled n) (call n))
    (needs : ∀ {α} (n : ν α), keyed n → (call n).NeedsKey) (p : Phrase ν α) {b : Bool} {k : Notice}
    (ready : p.ready settled keyed b k) :
    Parse.Beside line ordered b k (p.firm settled b) (p.parse call) := by
  have goes {α : Type} (p : Phrase ν α) := p.parse_goes goes
  induction p generalizing b k with
  | pure a => exact .pure a
  | terminal x => exact (Parse.Beside.terminal isLine x).of_near
  | production n => exact (hcall n).of_loose.of_near
  | fail what =>
    cases what with
    | some what =>
      obtain rfl : k = .asked := by simpa [Phrase.ready] using ready
      exact .want isLine what
    | none =>
      rcases (by simpa [Phrase.ready] using ready : k = .asked ∨ k = .same) with rfl | rfl
      · exact fun _ _ _ _ _ noted => .mismatch fun o => (noted o).1
      · exact .fails
  | seq p q ihp ihq =>
    obtain ⟨first, second⟩ := Bool.and_eq_true_iff.mp ready
    exact (ihp first).andThen fun g => (ihq second).andThen fun a => .pure (g a)
  | choose p q r ihp ihq ihr =>
    obtain ⟨both, other⟩ := Bool.and_eq_true_iff.mp ready
    obtain ⟨first, second⟩ := Bool.and_eq_true_iff.mp both
    exact (ihp first).either
      (fun a => ((ihq second).weaken fun h => (Bool.and_eq_true_iff.mp h).1).andThen
        fun g => .pure (g a))
      p.asks (p.parse_asks ·) ((ihr other).weaken fun h => (Bool.and_eq_true_iff.mp h).2)
  | many p ih =>
    obtain ⟨consumes, ready⟩ := Bool.and_eq_true_iff.mp ready
    exact (ih ready).many (consumes ▸ goes p)
  | commaList p ih => exact ((ih ready).commaList isLine (goes p)).of_near
  | lineList p ih =>
    simp only [Phrase.ready, Bool.and_eq_true] at ready
    obtain ⟨⟨⟨⟨rfl, consumes⟩, ready⟩, firm⟩, key⟩ := ready
    exact .lineList isLine (consumes ▸ goes p) (firm ▸ ih ready) (p.parse_needsKey needs key)
  | group bracket p ih => exact ((ih ready).group isLine bracket (goes p)).of_near
  | refuse keyword feature p r ihp ihr =>
    obtain ⟨refused, other⟩ := Bool.and_eq_true_iff.mp ready
    exact ((ihp refused).refuse isLine keyword feature (ihr other)).of_near
  | finish what => exact (Parse.Beside.finish isLine what).of_near

end Phrase

/-! ## Programs -/

namespace Production

/-- Whether the production ends behind a node that is no symbol. -/
def settled : {α : Type} → Production α → Bool
  | _, program | _, comparison => false
  | _, _ => true

/-- Whether the production begins with a name or a string. -/
def keyed : {α : Type} → Production α → Bool
  | _, patternField | _, exprField | _, fieldKey => true
  | _, _ => false

theorem ready_phrase {α : Type} (n : Production α) : n.phrase.ready settled keyed false .near := by
  cases n <;> rfl

theorem firm_phrase {α : Type} (n : Production α) (h : n.settled) :
    n.phrase.firm settled false := by
  cases n <;> first | rfl | cases h

theorem needsKey_phrase {α : Type} (n : Production α) (h : n.keyed) : n.phrase.needsKey keyed := by
  cases n <;> first | rfl | cases h

theorem parse_needsKey (fuel : Nat) {α : Type} (n : Production α) (h : n.keyed) :
    (n.parse fuel).NeedsKey := by
  induction fuel generalizing α with
  | zero => exact fun _ _ _ _ => .inl rfl
  | succ fuel ih => exact n.phrase.parse_needsKey ih (n.needsKey_phrase h)

theorem parse_beside {line : Token Value} (isLine : line.isLine) (ordered : Prop) (fuel : Nat)
    {α : Type} (n : Production α) :
    Parse.Beside line ordered false .near n.settled (n.parse fuel) := by
  induction fuel generalizing α with
  | zero => exact fun _ _ _ _ _ _ => .exhausted _
  | succ fuel ih =>
    exact (n.phrase.parse_beside isLine (parse_goes fuel) ih (parse_needsKey fuel)
      n.ready_phrase).weaken n.firm_phrase

end Production

/-- Outcomes that are the same but for what an error says is expected and found, and for where it
is if not `placed`. -/
inductive Alike (placed : Prop) :
    Except ParseError (List Declaration) → Except ParseError (List Declaration) → Prop
  | ok (ds : List Declaration) : Alike placed (.ok ds) (.ok ds)
  | unsupported (feature : String) (place : Position) :
      Alike placed (.error (.unsupported feature place)) (.error (.unsupported feature place))
  | expected {es es' : List String} {found found' : String} {place place' : Position} :
      (placed → place = place') →
      Alike placed (.error (.expected es found place)) (.error (.expected es' found' place'))

/-- A line break that is put into a tree between any two nodes, except before a name or a string
that comes after a name, a literal or a group, changes nothing but what an error says is expected
and found. Where the error is depends on where the line break says that it is: at its place in
source order it changes nothing. -/
theorem Tree.program_inserted {t t' : Tree Value} {line : Token Value} (isLine : line.isLine)
    (inserted : Inserted line false t.nodes t'.nodes) (stop : t'.stop = t.stop) :
    Alike t'.start.InOrder t.program t'.program := by
  have beside : Cursor.Beside line t'.start.InOrder false t.start t'.start :=
    ⟨inserted, rfl, stop, t.start_valid, t'.start_valid, id⟩
  have noted (_ : t'.start.InOrder) :
      Notice.near.Holds t.start.reached ({} : Furthest) ({} : Furthest) := .inl rfl
  have reply := Production.program.parse_beside isLine t'.start.InOrder
    (32 * (max t.start.room t'.start.room + 1)) beside noted
  have rank : Production.program.rank < 32 := Production.program.rank_lt
  rw [Production.parse_eq_read _ t.start_valid (by omega),
    Production.parse_eq_read _ t'.start_valid (by omega)] at reply
  have lasts := Production.program.read_lasts t.start_valid ({} : Furthest)
  rw [program_eq, program_eq]
  generalize Production.program.read t.start ({} : Furthest) = r at reply lasts
  generalize Production.program.read t'.start ({} : Furthest) = r' at reply
  cases reply with
  | ok ds => exact .ok ds
  | mismatch same => exact .expected fun o => congrArg (·.getD .start) (same o)
  | fatal e =>
    cases e with
    | expected => exact .expected fun _ => rfl
    | unsupported feature place => exact .unsupported feature place
  | exhausted => exact absurd rfl lasts

/-- A tag with its field may stand on the line after the equals sign. -/
theorem Tree.program_inserted_equals : ∃ (t t' : Tree Value) (line : Token Value), line.isLine ∧
    Inserted line false t.nodes t'.nodes ∧ t'.stop = t.stop ∧ t'.start.InOrder ∧
    t.program.toOption.isSome ∧ Alike t'.start.InOrder t.program t'.program := by
  let line : Token Value := ⟨.line, "\n", ⟨7, 1, 8⟩⟩
  let insert (t : Tree Value) : Tree Value :=
    ⟨t.nodes.take 2 ++ .token line :: t.nodes.drop 2, t.stop⟩
  obtain ⟨t, -, symbol, order, program⟩ := Template.exists_tree
    (t := .ofText "start = #A b\n#A @ #c -> #A b")
    (P := fun t => (t.nodes.take 2).getLast?.elim false (!·.isSymbol) = false ∧
      Node.allInOrder t.stop (insert t).nodes ∧ t.program.toOption.isSome)
    (by decide +kernel)
  have inserted : Inserted line false (t.nodes.take 2 ++ t.nodes.drop 2) (insert t).nodes :=
    .between _ (by simp [symbol])
  rw [List.take_append_drop] at inserted
  exact ⟨t, insert t, line, rfl, inserted, rfl, order, program,
    program_inserted rfl inserted rfl⟩

end RuleMachine
