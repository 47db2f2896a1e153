import Mathlib.Data.List.Chain
import Mathlib.Logic.Relation
import RuleMachine.Proofs.Grammar.Fuel

/-!
# Calls of productions

While a phrase is read, productions are called, and repetitions go on from one lap to the next
(`Reader.Involves`). What is called stands further on, behind a node or in a group, or else on a
lower level (`Production.level`); a lap that goes on has moved the cursor; and no repetition comes
to the end of its laps (`Reader.Involves.sound`). So a production is not called again within itself
before something has been passed, the calls that are nested in each other are bounded by the number
of nodes, and reading ends with as much fuel (`Tree.program_ends`). The characters of operators do
not come into the bound: between two productions of one level a whole node is passed.
-/

namespace RuleMachine

/-! ## Places further on -/

namespace Node

mutual

/-- The number of tokens and groups in a node, not counting the brackets themselves. -/
def count : Node Value → Nat
  | .token _ => 1
  | .group _ _ children => countIn children + 1

/-- The number of tokens and groups in a list of nodes. -/
def countIn : List (Node Value) → Nat
  | [] => 0
  | n :: ns => count n + countIn ns

end

theorem count_pos (n : Node Value) : 0 < n.count := by
  cases n with
  | token t => exact Nat.one_pos
  | group opener closer children => exact Nat.succ_pos _

theorem countIn_append (ns ms : List (Node Value)) :
    countIn (ns ++ ms) = countIn ns + countIn ms := by
  induction ns with
  | nil => simp [countIn]
  | cons n ns ih => simp only [List.cons_append, countIn, ih]; omega

theorem count_le_countIn {n : Node Value} {ns : List (Node Value)} (mem : n ∈ ns) :
    n.count ≤ countIn ns := by
  obtain ⟨before, after, rfl⟩ := List.append_of_mem mem
  rw [countIn_append, countIn]
  omega

theorem countIn_le_of_suffix {ns ms : List (Node Value)} (h : ns <:+ ms) :
    countIn ns ≤ countIn ms := by
  obtain ⟨before, rfl⟩ := h
  rw [countIn_append]
  omega

end Node

/-- The number of nodes of a tree, the outermost group among them. -/
def Tree.count (t : Tree Value) : Nat := Node.countIn t.nodes + 1

namespace Cursor

/-- `d` stands behind a node that `c` stands before. -/
def Passes (c d : Cursor) : Prop :=
  d.stop = c.stop ∧ ∃ n passed, c.nodes = n :: passed ++ d.nodes

/-- `d` stands in a group that `c` stands before, or in a group within it. -/
inductive Encloses : Cursor → Cursor → Prop
  | child {c d : Cursor} {opener closer : Token Value} {children : List (Node Value)} :
      .group opener closer children ∈ c.nodes → d.nodes <:+ children → d.stop = closer.position →
      Encloses c d
  | within {c d : Cursor} {opener closer : Token Value} {children : List (Node Value)} :
      .group opener closer children ∈ c.nodes →
      Encloses { nodes := children, stop := closer.position } d → Encloses c d

/-- `d` stands behind a node or in a group that `c` stands before. -/
def Ahead (c d : Cursor) : Prop := c.Passes d ∨ c.Encloses d

/-- The number of nodes that are left. -/
def left (c : Cursor) : Nat := Node.countIn c.nodes

variable {c d e : Cursor}

theorem Passes.before (h : c.Passes d) : c.Before d := ⟨h.1, .inr h.2⟩

theorem Reaches.suffix (h : c.Reaches d) : d.nodes <:+ c.nodes := by
  rcases h with rfl | ⟨-, ⟨same, -⟩ | ⟨n, passed, nodes⟩⟩
  · exact List.suffix_refl _
  · exact same ▸ List.suffix_refl _
  · exact ⟨n :: passed, nodes.symm⟩

theorem Reaches.passes (h : c.Reaches d) (h' : d.Passes e) : c.Passes e := by
  obtain ⟨before, whole⟩ := h.suffix
  obtain ⟨stop, n, passed, nodes⟩ := h'
  refine ⟨stop.trans h.stop_eq, ?_⟩
  cases before with
  | nil => exact ⟨n, passed, by simpa [nodes] using whole.symm⟩
  | cons m before => exact ⟨m, before ++ n :: passed, by simp [← whole, nodes]⟩

theorem Passes.reaches (h : c.Passes d) (h' : d.Reaches e) : c.Passes e := by
  obtain ⟨stop, n, passed, nodes⟩ := h
  obtain ⟨before, whole⟩ := h'.suffix
  exact ⟨h'.stop_eq.trans stop, n, passed ++ before, by simp [nodes, whole]⟩

theorem Encloses.of_suffix (h : d.Encloses e) (suffix : d.nodes <:+ c.nodes) : c.Encloses e := by
  cases h with
  | child mem rest stop => exact .child (suffix.subset mem) rest stop
  | within mem inner => exact .within (suffix.subset mem) inner

theorem Encloses.reaches (h : c.Encloses d) (h' : d.Reaches e) : c.Encloses e := by
  induction h with
  | child mem rest stop => exact .child mem (h'.suffix.trans rest) (h'.stop_eq.trans stop)
  | within mem _ ih => exact .within mem (ih h')

theorem Encloses.trans (h : c.Encloses d) (h' : d.Encloses e) : c.Encloses e := by
  induction h with
  | child mem rest _ => exact .within mem (h'.of_suffix rest)
  | within mem _ ih => exact .within mem (ih h')

theorem Reaches.ahead (h : c.Reaches d) (h' : d.Ahead e) : c.Ahead e := by
  rcases h' with passes | encloses
  · exact .inl (h.passes passes)
  · exact .inr (encloses.of_suffix h.suffix)

theorem Ahead.reaches (h : c.Ahead d) (h' : d.Reaches e) : c.Ahead e := by
  rcases h with passes | encloses
  · exact .inl (passes.reaches h')
  · exact .inr (encloses.reaches h')

theorem Ahead.trans (h : c.Ahead d) (h' : d.Ahead e) : c.Ahead e := by
  rcases h with passes | encloses
  · exact passes.before.reaches.ahead h'
  rcases h' with passes | inner
  · exact .inr (encloses.reaches passes.before.reaches)
  · exact .inr (encloses.trans inner)

theorem Reaches.left_le (h : c.Reaches d) : d.left ≤ c.left := Node.countIn_le_of_suffix h.suffix

theorem Encloses.left_lt (h : c.Encloses d) : d.left < c.left := by
  induction h with
  | child mem rest _ =>
    have inside := Node.countIn_le_of_suffix rest
    have whole := Node.count_le_countIn mem
    rw [Node.count] at whole
    simp only [left]
    omega
  | within mem _ ih =>
    have whole := Node.count_le_countIn mem
    rw [Node.count] at whole
    simp only [left] at ih ⊢
    omega

theorem Ahead.left_lt (h : c.Ahead d) : d.left < c.left := by
  rcases h with ⟨-, n, passed, nodes⟩ | encloses
  · have := n.count_pos
    simp only [left, nodes, List.cons_append, Node.countIn, Node.countIn_append]
    omega
  · exact encloses.left_lt

theorem passes_next {n : Node Value} {rest : List (Node Value)} (nodes : c.nodes = n :: rest) :
    c.Passes c.next :=
  ⟨rfl, n, [], by simp [Cursor.next, nodes]⟩

end Cursor

/-! ## Levels of productions -/

/-- Whether a whole node is passed by whatever the production is. An operator of comparison may be
a part of a token. -/
def Production.advances : {α : Type} → Production α → Bool
  | _, comparison => false
  | _, _ => true

/-- Above every production that is called in it before a whole node is passed. -/
def Production.level : {α : Type} → Production α → Nat
  | _, joinedAction => 1
  | _, n => n.rank

namespace Phrase

variable {α : Type}

/-- Whether a whole node is passed by whatever the phrase describes. -/
def advances : {α : Type} → Phrase Production α → Bool
  | _, .terminal x => x.whole
  | _, .production n => n.advances
  | _, .fail _ | _, .group _ _ => true
  | _, .seq p q => p.advances || q.advances
  | _, .choose p q r => (p.advances || q.advances) && r.advances
  | _, .refuse _ _ _ r => r.advances
  | _, .pure _ | _, .many _ | _, .commaList _ | _, .lineList _ | _, .finish _ => false

/-- Above the levels of all productions that may be called before a whole node is passed. -/
def reach : {α : Type} → Phrase Production α → Nat
  | _, .production n => n.level + 1
  | _, .seq p q => max p.reach (if p.advances then 0 else q.reach)
  | _, .choose p q r => max (max p.reach (if p.advances then 0 else q.reach)) r.reach
  | _, .many p | _, .commaList p | _, .lineList p => p.reach
  | _, .refuse _ _ _ r => r.reach
  | _, .pure _ | _, .terminal _ | _, .fail _ | _, .group _ _ | _, .finish _ => 0

/-- Whether all that is listed on a line takes something. -/
def linesConsume : {α : Type} → Phrase Production α → Bool
  | _, .lineList p => p.consumes && p.linesConsume
  | _, .seq p q => p.linesConsume && q.linesConsume
  | _, .choose p q r => p.linesConsume && q.linesConsume && r.linesConsume
  | _, .many p | _, .commaList p | _, .group _ p => p.linesConsume
  | _, .refuse _ _ p r => p.linesConsume && r.linesConsume
  | _, .pure _ | _, .terminal _ | _, .production _ | _, .fail _ | _, .finish _ => true

end Phrase

namespace Production

variable {α : Type}

theorem advances_phrase (n : Production α) : n.phrase.advances = n.advances := by
  cases n <;> rfl

theorem reach_phrase (n : Production α) : n.phrase.reach ≤ n.level := by
  cases n <;> decide

theorem linesConsume_phrase (n : Production α) : n.phrase.linesConsume := by
  cases n <;> rfl

theorem level_lt (n : Production α) : n.level < 9 := by
  cases n <;> decide

end Production

/-! ## What happens while something is read -/

/-- A production that is read, from where, and with which notes made before. -/
structure Call (ρ : Type) where
  {value : Type}
  production : Production value
  cursor : Cursor
  notes : ρ

/-- What happens while something is read. -/
inductive Incident (ρ : Type) where
  /-- A production is called. -/
  | call (v : Call ρ)
  /-- A repetition goes on from one cursor with another lap from a second one. -/
  | lap (before after : Cursor)
  /-- A repetition ends for want of laps. -/
  | cut

/-- The kinds of repetitions. -/
inductive Repetition where
  | many
  | comma
  | line

namespace Repetition

variable {ρ : Type} [Notepad ρ]

/-- Where a lap looks for its item, if there may be one. -/
def item? : Repetition → Cursor → ρ → Option (Cursor × ρ)
  | many, c, f => some (c, f)
  | comma, c, f =>
    match Parse.terminal (.symbol ",") c f with
    | .ok _ d g => if d.skipLines.nodes.isEmpty then none else some (d.skipLines, g)
    | _ => none
  | line, c, f => if c.atLineOrEnd then none else some (c, f)

/-- Whether there is another lap after one with an item. -/
def goesOn : Repetition → Cursor → Cursor → Bool
  | many, c, d => !d.sameAs c
  | comma, _, _ | line, _, _ => true

end Repetition

/-- What is read: a phrase, or a repetition with a number of laps left. -/
inductive Reader : Type → Type 1 where
  | phrase {α : Type} (p : Phrase Production α) : Reader α
  | laps {α : Type} (kind : Repetition) (p : Phrase Production α) (left : Nat) : Reader (List α)

/-- The incidents of reading from a cursor with some notes, but for those of the productions that
are called. -/
inductive Reader.Involves {ρ : Type} [Notepad ρ]
    (call : {α : Type} → Production α → Parse ρ α) :
    {α : Type} → Reader α → Cursor → ρ → Incident ρ → Prop
  | production {α} {n : Production α} {c f} :
      Involves call (.phrase (.production n)) c f (.call ⟨n, c, f⟩)
  | first {α β} {p : Phrase Production (α → β)} {q c f e} :
      Involves call (.phrase p) c f e → Involves call (.phrase (.seq p q)) c f e
  | second {α β} {p : Phrase Production (α → β)} {q c f g d f' e} :
      p.parse call c f = .ok g d f' → Involves call (.phrase q) d f' e →
      Involves call (.phrase (.seq p q)) c f e
  | tried {α β} {p : Phrase Production α} {q} {r : Phrase Production β} {c f e} :
      Involves call (.phrase p) c f e → Involves call (.phrase (.choose p q r)) c f e
  | chosen {α β} {p : Phrase Production α} {q} {r : Phrase Production β} {c f a d f' e} :
      p.parse call c f = .ok a d f' → Involves call (.phrase q) d f' e →
      Involves call (.phrase (.choose p q r)) c f e
  | other {α β} {p : Phrase Production α} {q} {r : Phrase Production β} {c f f' e} :
      p.parse call c f = .mismatch f' → Involves call (.phrase r) c f' e →
      Involves call (.phrase (.choose p q r)) c f e
  | inside {α} {b : Bracket} {p : Phrase Production α} {c f e opener closer children rest} :
      c.skipLines.nodes = .group opener closer children :: rest → opener.text = b.opener →
      Involves call (.phrase p) { nodes := children, stop := closer.position } f e →
      Involves call (.phrase (.group b p)) c f e
  | refused {α} {keyword feature : String} {p} {r : Phrase Production α} {c f d f' e} :
      Parse.terminal (.word keyword) c.skipLines f = .ok () d f' →
      Involves call (.phrase p) d f' e →
      Involves call (.phrase (.refuse keyword feature p r)) c f e
  | allowed {α} {keyword feature : String} {p} {r : Phrase Production α} {c f f' e} :
      Parse.terminal (.word keyword) c.skipLines f = .mismatch f' →
      Involves call (.phrase r) c.skipLines f' e →
      Involves call (.phrase (.refuse keyword feature p r)) c f e
  | many {α} {p : Phrase Production α} {c f e} :
      Involves call (.laps .many p c.steps) c f e → Involves call (.phrase (.many p)) c f e
  | lines {α} {p : Phrase Production α} {c f e} :
      Involves call (.laps .line p c.steps) c f e → Involves call (.phrase (.lineList p)) c f e
  | leading {α} {p : Phrase Production α} {c f e} : ¬c.skipLines.nodes.isEmpty →
      Involves call (.phrase p) c.skipLines f e → Involves call (.phrase (.commaList p)) c f e
  | commas {α} {p : Phrase Production α} {c f a d f' e} : ¬c.skipLines.nodes.isEmpty →
      p.parse call c.skipLines f = .ok a d f' →
      Involves call (.laps .comma p d.steps) d f' e → Involves call (.phrase (.commaList p)) c f e
  | item {α} {kind : Repetition} {p : Phrase Production α} {left c f d f' e} :
      kind.item? c f = some (d, f') → Involves call (.phrase p) d f' e →
      Involves call (.laps kind p (left + 1)) c f e
  | lap {α} {kind : Repetition} {p : Phrase Production α} {left c f d f' a d' g} :
      kind.item? c f = some (d, f') → p.parse call d f' = .ok a d' g → kind.goesOn c d' →
      Involves call (.laps kind p (left + 1)) c f (.lap c d')
  | next {α} {kind : Repetition} {p : Phrase Production α} {left c f d f' a d' g e} :
      kind.item? c f = some (d, f') → p.parse call d f' = .ok a d' g → kind.goesOn c d' →
      Involves call (.laps kind p left) d' g e → Involves call (.laps kind p (left + 1)) c f e
  | cut {α} {kind : Repetition} {p : Phrase Production α} {c f} :
      Involves call (.laps kind p 0) c f .cut

/-! ## Whole nodes are passed -/

namespace Parse

variable {ρ α : Type}

/-- From a valid cursor, `p` leads behind a node in front of it. -/
def Advances (p : Parse ρ α) : Prop :=
  ∀ ⦃c f a d g⦄, c.Valid → p c f = .ok a d g → c.Passes d

variable [Notepad ρ]

theorem Advances.terminal {x : Terminal α} (whole : x.whole) :
    Advances (terminal x : Parse ρ α) := by
  intro c f a d g valid ok
  unfold Parse.terminal at ok
  split at ok
  · next a' d' taken =>
    cases ok
    rw [terminal?_eq valid.skipLines whole] at taken
    obtain ⟨a'', value, same⟩ := Option.map_eq_some_iff.mp taken
    obtain ⟨t, front, -⟩ := Option.bind_eq_some_iff.mp value
    obtain ⟨rest, nodes⟩ := Cursor.nodes_of_token? front
    obtain ⟨-, rfl⟩ := Prod.mk.inj same
    exact c.skipLines_reaches.passes (Cursor.passes_next nodes)
  · cases ok

/-- A group is passed whole. -/
theorem group_passes {b : Bracket} {p : Parse ρ α} {c d : Cursor} {f g : ρ} {a : α}
    (ok : group b p c f = .ok a d g) : c.Passes d := by
  simp only [Parse.group] at ok
  split at ok
  · next opener closer children rest nodes =>
    split at ok
    · obtain ⟨a', e, f', -, ok⟩ := andThen_ok ok
      obtain ⟨-, e', f'', -, ok⟩ := andThen_ok ok
      cases ok
      exact c.skipLines_reaches.passes (Cursor.passes_next nodes)
    · cases ok
  · cases ok

end Parse

section

variable {ρ : Type} [Notepad ρ] {call : {α : Type} → Production α → Parse ρ α}
  (goes : ∀ {α} (n : Production α), Parse.Goes true (call n))
  (advances : ∀ {α} (n : Production α), n.advances → Parse.Advances (call n))
include goes advances

theorem Phrase.parse_advances {α : Type} (p : Phrase Production α) (h : p.advances) :
    Parse.Advances (p.parse call) := by
  -- After a first part that passes no node the second one does, or the other way round.
  have both {β γ : Type} {p : Phrase Production β} {q : Phrase Production γ} {c d e : Cursor}
      {f f' g : ρ} {a : β} {b : γ} (valid : c.Valid) (first : p.parse call c f = .ok a d f')
      (second : q.parse call d f' = .ok b e g) (h : p.advances || q.advances)
      (ihp : p.advances → Parse.Advances (p.parse call))
      (ihq : q.advances → Parse.Advances (q.parse call)) : c.Passes e := by
    obtain ⟨valid', reached, -⟩ := p.parse_goes goes valid first
    obtain ⟨-, reached', -⟩ := q.parse_goes goes valid' second
    rcases Bool.or_eq_true_iff.mp h with h | h
    · exact (ihp h valid first).reaches reached'
    · exact reached.passes (ihq h valid' second)
  induction p with
  | terminal x => exact .terminal h
  | production n => exact advances n h
  | fail what =>
    intro c f a d g valid ok
    cases what <;> cases ok
  | seq p q ihp ihq =>
    intro c f a d g valid ok
    obtain ⟨k, e, f', first, ok⟩ := Parse.andThen_ok ok
    obtain ⟨b, e', g', second, ok⟩ := Parse.andThen_ok ok
    cases ok
    exact both valid first second h ihp ihq
  | choose p q r ihp ihq ihr =>
    obtain ⟨hpq, hr⟩ := Bool.and_eq_true_iff.mp h
    intro c f a d g valid ok
    rcases Parse.either_ok ok with ok | ⟨f', -, ok⟩
    · obtain ⟨b, e, f', first, ok⟩ := Parse.andThen_ok ok
      obtain ⟨k, e', g', second, ok⟩ := Parse.andThen_ok ok
      cases ok
      exact both valid first second hpq ihp ihq
    · exact ihr hr valid ok
  | group b p _ => exact fun _ _ _ _ _ _ ok => Parse.group_passes ok
  | refuse keyword feature p r _ ihr =>
    intro c f a d g valid ok
    simp only [Phrase.parse, Parse.refuse] at ok
    rcases Parse.either_ok ok with ok | ⟨f', -, ok⟩
    · obtain ⟨-, e, f', -, ok⟩ := Parse.andThen_ok ok
      obtain ⟨-, e', g', -, ok⟩ := Parse.andThen_ok ok
      cases ok
    · exact c.skipLines_reaches.passes (ihr h valid.skipLines ok)
  | pure | many | commaList | lineList | finish => cases h

end

theorem Production.parse_advances {ρ : Type} [Notepad ρ] (fuel : Nat) {α : Type}
    (n : Production α) (h : n.advances) : Parse.Advances (n.parse fuel : Parse ρ α) := by
  induction fuel generalizing α with
  | zero => exact fun _ _ _ _ _ _ ok => by cases ok
  | succ fuel ih =>
    exact n.phrase.parse_advances (fun n => parse_goes fuel n) ih (n.advances_phrase.trans h)

/-! ## What incidents come to -/

/-- What is called from `c` is ahead, or not behind and on a level below `bound`; a lap that goes
on has moved on; and no repetition is cut. -/
def Incident.Sound {ρ : Type} (c : Cursor) (bound : Nat) : Incident ρ → Prop
  | .call v => v.cursor.Valid ∧
      (c.Ahead v.cursor ∨ c.Reaches v.cursor ∧ v.production.level < bound)
  | .lap d d' => d.Before d'
  | .cut => False

namespace Incident.Sound

variable {ρ : Type} {e : Incident ρ} {c d : Cursor} {bound bound' : Nat}

theorem reached (h : e.Sound d bound) (reaches : c.Reaches d) (le : bound ≤ bound') :
    e.Sound c bound' := by
  cases e with
  | call v =>
    obtain ⟨valid, ahead | ⟨reaches', less⟩⟩ := h
    · exact ⟨valid, .inl (reaches.ahead ahead)⟩
    · exact ⟨valid, .inr ⟨reaches.trans reaches', Nat.lt_of_lt_of_le less le⟩⟩
  | lap before after => exact h
  | cut => exact h

theorem ahead (h : e.Sound d bound) (ahead : c.Ahead d) : e.Sound c bound' := by
  cases e with
  | call v =>
    obtain ⟨valid, ahead' | ⟨reaches, -⟩⟩ := h
    · exact ⟨valid, .inl (ahead.trans ahead')⟩
    · exact ⟨valid, .inl (ahead.reaches reaches)⟩
  | lap before after => exact h
  | cut => exact h

end Incident.Sound

namespace Repetition

variable {ρ : Type} [Notepad ρ] {c d d' : Cursor} {f f' g : ρ} {kind : Repetition}

theorem item?_goes (valid : c.Valid) (item : kind.item? c f = some (d, f')) :
    d.Valid ∧ c.Reaches d ∧ (kind = .comma → c.Before d) := by
  cases kind with
  | many =>
    cases item
    exact ⟨valid, .refl c, nofun⟩
  | line =>
    simp only [item?] at item
    split at item
    · cases item
    · cases item
      exact ⟨valid, .refl c, nofun⟩
  | comma =>
    simp only [item?] at item
    split at item
    · next e g comma =>
      obtain ⟨valid', -, before⟩ := Parse.Goes.terminal _ valid comma
      split at item
      · cases item
      · cases item
        have further := (before rfl).then e.skipLines_reaches
        exact ⟨valid'.skipLines, further.reaches, fun _ => further⟩
    · cases item

/-- A lap that goes on has moved on, since it passes a comma, is not where it was, or takes
something. -/
theorem lap_before {α : Type} {p : Parse ρ α} {a : α} {strict : Bool} (goes : Parse.Goes strict p)
    (line : kind = .line → strict) (valid : c.Valid) (item : kind.item? c f = some (d, f'))
    (read : p d f' = .ok a d' g) (goesOn : kind.goesOn c d') : d'.Valid ∧ c.Before d' := by
  obtain ⟨valid', reaches, comma⟩ := item?_goes valid item
  obtain ⟨valid'', reaches', before⟩ := goes valid' read
  refine ⟨valid'', ?_⟩
  cases kind with
  | many =>
    rcases reaches.trans reaches' with rfl | before
    · simp [Repetition.goesOn, Cursor.sameAs] at goesOn
    · exact before
  | comma => exact (comma rfl).then reaches'
  | line => exact reaches.before (before (line rfl))

end Repetition

/-- What must be so of a reader at a cursor: what is listed on a line takes something, and there
are laps enough. -/
def Reader.Apt {α : Type} (c : Cursor) : Reader α → Prop
  | .phrase p => p.linesConsume
  | .laps kind p left => p.linesConsume ∧ (kind = .line → p.consumes) ∧ c.steps ≤ left

namespace Reader.Apt

variable {α β : Type} {c d : Cursor} {p : Phrase Production α}

theorem seq {p : Phrase Production (α → β)} {q : Phrase Production α}
    (h : Apt c (.phrase (.seq p q))) : Apt c (.phrase p) ∧ Apt d (.phrase q) :=
  Bool.and_eq_true_iff.mp h

theorem choose {q : Phrase Production (α → β)} {r : Phrase Production β}
    (h : Apt c (.phrase (.choose p q r))) :
    Apt c (.phrase p) ∧ Apt d (.phrase q) ∧ Apt c (.phrase r) := by
  obtain ⟨h, hr⟩ := Bool.and_eq_true_iff.mp h
  obtain ⟨hp, hq⟩ := Bool.and_eq_true_iff.mp h
  exact ⟨hp, hq, hr⟩

theorem refuse {keyword feature : String} {p : Phrase Production Unit} {r : Phrase Production α}
    (h : Apt c (.phrase (.refuse keyword feature p r))) :
    Apt d (.phrase p) ∧ Apt c.skipLines (.phrase r) :=
  Bool.and_eq_true_iff.mp h

theorem lineList (h : Apt c (.phrase (.lineList p))) : Apt c (.laps .line p c.steps) := by
  obtain ⟨consumes, hp⟩ := Bool.and_eq_true_iff.mp h
  exact ⟨hp, fun _ => consumes, Nat.le_refl _⟩

end Reader.Apt

/-- Above the levels of all productions that may be called before a whole node is passed. -/
def Reader.reach {α : Type} : Reader α → Nat
  | .phrase p | .laps _ p _ => p.reach

section

variable {ρ : Type} [Notepad ρ] {call : {α : Type} → Production α → Parse ρ α}
  (goes : ∀ {α} (n : Production α), Parse.Goes true (call n))
  (advances : ∀ {α} (n : Production α), n.advances → Parse.Advances (call n))
include goes advances

/-- After a first part come the calls of a second one, unless a node was passed. -/
theorem Incident.Sound.second {β : Type} {p : Phrase Production β} {bound : Nat} {c d : Cursor}
    {f f' : ρ} {b : β} {e : Incident ρ} (sound : e.Sound d bound) (valid : c.Valid)
    (first : p.parse call c f = .ok b d f') : e.Sound c (if p.advances then 0 else bound) := by
  by_cases passes : p.advances
  · exact sound.ahead (.inl (p.parse_advances goes advances passes valid first))
  · rw [if_neg passes]
    exact sound.reached (p.parse_goes goes valid first).2.1 (Nat.le_refl _)

theorem Reader.Involves.sound {α : Type} {r : Reader α} {c : Cursor} {f : ρ} {e : Incident ρ}
    (h : Involves call r c f e) (apt : r.Apt c) (valid : c.Valid) : e.Sound c r.reach := by
  induction h with
  | production => exact ⟨valid, .inr ⟨.refl _, Nat.lt_succ_self _⟩⟩
  | @first _ _ p q c f e _ ih =>
    exact (ih (apt.seq (d := c)).1 valid).reached (.refl c) (Nat.le_max_left ..)
  | @second _ _ p q c f k d f' e ok _ ih =>
    have sound := ih apt.seq.2 (p.parse_goes goes valid ok).1
    exact (sound.second goes advances valid ok).reached (.refl c) (Nat.le_max_right ..)
  | @tried _ _ p q r c f e _ ih =>
    refine (ih (apt.choose (d := c)).1 valid).reached (.refl c) ?_
    exact Nat.le_trans (Nat.le_max_left ..) (Nat.le_max_left ..)
  | @chosen _ _ p q r c f a d f' e ok _ ih =>
    have sound := ih apt.choose.2.1 (p.parse_goes goes valid ok).1
    refine (sound.second goes advances valid ok).reached (.refl c) ?_
    exact Nat.le_trans (Nat.le_max_right ..) (Nat.le_max_left ..)
  | @other _ _ p q r c f f' e _ _ ih =>
    exact (ih (apt.choose (d := c)).2.2 valid).reached (.refl c) (Nat.le_max_right ..)
  | @inside _ b p c f e opener closer children rest nodes _ _ ih =>
    have mem : .group opener closer children ∈ c.skipLines.nodes := nodes ▸ .head _
    refine (ih apt (.inl rfl)).ahead (c.skipLines_reaches.ahead (.inr ?_))
    exact .child mem (List.suffix_refl _) rfl
  | @refused _ keyword feature p r c f d f' e ok _ ih =>
    have passes := Parse.Advances.terminal (x := .word keyword) rfl valid.skipLines ok
    have valid' := (Parse.Goes.terminal _ valid.skipLines ok).1
    exact (ih apt.refuse.1 valid').ahead (c.skipLines_reaches.ahead (.inl passes))
  | @allowed _ keyword feature p r c f f' e _ _ ih =>
    have sound := ih (apt.refuse (d := c)).2 valid.skipLines
    exact sound.reached c.skipLines_reaches (Nat.le_refl _)
  | many _ ih => exact ih ⟨apt, nofun, Nat.le_refl _⟩ valid
  | lines _ ih => exact ih apt.lineList valid
  | @leading _ p c f e _ _ ih =>
    exact (ih apt valid.skipLines).reached c.skipLines_reaches (Nat.le_refl _)
  | @commas _ p c f a d f' e _ ok _ ih =>
    obtain ⟨valid', reaches, -⟩ := p.parse_goes goes valid.skipLines ok
    have sound := ih ⟨apt, nofun, Nat.le_refl _⟩ valid'
    exact sound.reached (c.skipLines_reaches.trans reaches) (Nat.le_refl _)
  | item item _ ih =>
    obtain ⟨valid', reaches, -⟩ := Repetition.item?_goes valid item
    exact (ih apt.1 valid').reached reaches (Nat.le_refl _)
  | @lap _ kind p left c f d f' a d' g item ok goesOn =>
    exact (Repetition.lap_before (p.parse_goes goes) apt.2.1 valid item ok goesOn).2
  | @next _ kind p left c f d f' a d' g e item ok goesOn _ ih =>
    obtain ⟨valid', before⟩ :=
      Repetition.lap_before (p.parse_goes goes) apt.2.1 valid item ok goesOn
    have less := before.steps_lt valid valid'
    have enough := apt.2.2
    exact (ih ⟨apt.1, apt.2.1, by omega⟩ valid').reached before.reaches (Nat.le_refl _)
  | @cut _ kind p c f => exact absurd apt.2.2 (Nat.not_le_of_lt c.steps_pos)

end

/-! ## Reading is cut off in calls only -/

namespace Parse

variable {ρ α β : Type} {p : Parse ρ α} {c : Cursor} {f : ρ}

theorem andThen_exhausted {q : α → Parse ρ β} (h : andThen p q c f = .exhausted) :
    p c f = .exhausted ∨ ∃ a d g, p c f = .ok a d g ∧ q a d g = .exhausted := by
  unfold andThen at h
  split at h
  · next a d g first => exact .inr ⟨a, d, g, first, h⟩
  · cases h
  · cases h
  · next cut => exact .inl cut

theorem either_exhausted {q : α → Parse ρ β} {r : Parse ρ β} (h : either p q r c f = .exhausted) :
    p c f = .exhausted ∨ (∃ a d g, p c f = .ok a d g ∧ q a d g = .exhausted) ∨
      ∃ g, p c f = .mismatch g ∧ r c g = .exhausted := by
  unfold either at h
  split at h
  · next a d g first => exact .inr (.inl ⟨a, d, g, first, h⟩)
  · next g first => exact .inr (.inr ⟨g, first, h⟩)
  · cases h
  · next cut => exact .inl cut

end Parse

section

variable {ρ : Type} [Notepad ρ] {call : {α : Type} → Production α → Parse ρ α}

/-- A call of a production is cut off while something is read. -/
def Reader.RunsOut (call : {α : Type} → Production α → Parse ρ α) {α : Type} (r : Reader α)
    (c : Cursor) (f : ρ) : Prop :=
  ∃ v : Call ρ, r.Involves call c f (.call v) ∧
    call v.production v.cursor v.notes = .exhausted

namespace Reader.RunsOut

variable {α β : Type} {c d : Cursor} {f g : ρ}

theorem mono {r : Reader α} {r' : Reader β} (h : r.RunsOut call c f)
    (involves : ∀ e, r.Involves call c f e → r'.Involves call d g e) : r'.RunsOut call d g := by
  obtain ⟨v, called, cut⟩ := h
  exact ⟨v, involves _ called, cut⟩

variable {p : Phrase Production α}
  (ih : ∀ {c f}, p.parse call c f = .exhausted → (Reader.phrase p).RunsOut call c f)
include ih

theorem many {left : Nat} (h : Parse.many (p.parse call) left c f = .exhausted) :
    (Reader.laps .many p left).RunsOut call c f := by
  induction left generalizing c f with
  | zero => cases h
  | succ left ihl =>
    rcases Parse.either_exhausted h with cut | ⟨a, d, g, ok, cut⟩ | ⟨g, -, cut⟩
    · exact (ih cut).mono fun e => .item rfl
    · split at cut
      · cases cut
      · next other =>
        rcases Parse.andThen_exhausted cut with cut | ⟨as, d', g', -, cut⟩
        · exact (ihl cut).mono fun e => .next rfl ok (by simp [Repetition.goesOn, other])
        · cases cut
    · cases cut

theorem lineList {left : Nat} (h : Parse.lineList (p.parse call) left c f = .exhausted) :
    (Reader.laps .line p left).RunsOut call c f := by
  induction left generalizing c f with
  | zero => cases h
  | succ left ihl =>
    simp only [Parse.lineList] at h
    split at h
    · cases h
    · next inLine =>
      have item : Repetition.line.item? c f = some (c, f) := by
        simp [Repetition.item?, inLine]
      rcases Parse.either_exhausted h with cut | ⟨a, d, g, ok, cut⟩ | ⟨g, -, cut⟩
      · exact (ih cut).mono fun e => .item item
      · rcases Parse.andThen_exhausted cut with cut | ⟨as, d', g', -, cut⟩
        · exact (ihl cut).mono fun e => .next item ok rfl
        · cases cut
      · cases cut

theorem commaRest {left : Nat} (h : Parse.commaRest (p.parse call) left c f = .exhausted) :
    (Reader.laps .comma p left).RunsOut call c f := by
  induction left generalizing c f with
  | zero => cases h
  | succ left ihl =>
    rcases Parse.either_exhausted h with cut | ⟨_, d, g, comma, cut⟩ | ⟨g, -, cut⟩
    · exact absurd cut (Parse.LastsAt.terminal _ f)
    · split at cut
      · cases cut
      · next more =>
        have item : Repetition.comma.item? c f = some (d.skipLines, g) := by
          simp [Repetition.item?, comma, more]
        rcases Parse.andThen_exhausted cut with cut | ⟨a, d', g', ok, cut⟩
        · exact (ih cut).mono fun e => .item item
        · rcases Parse.andThen_exhausted cut with cut | ⟨as, d'', g'', -, cut⟩
          · exact (ihl cut).mono fun e => .next item ok rfl
          · cases cut
    · cases cut

end Reader.RunsOut

/-- Reading a phrase is cut off only where a production called in it is. -/
theorem Phrase.runsOut {α : Type} (p : Phrase Production α) {c : Cursor} {f : ρ}
    (h : p.parse call c f = .exhausted) : (Reader.phrase p).RunsOut call c f := by
  induction p generalizing c f with
  | pure a => cases h
  | terminal x => exact absurd h (Parse.LastsAt.terminal x f)
  | production n => exact ⟨⟨n, c, f⟩, .production, h⟩
  | fail what => cases what <;> cases h
  | seq p q ihp ihq =>
    rcases Parse.andThen_exhausted h with cut | ⟨g, d, f', first, h⟩
    · exact (ihp cut).mono fun e => .first
    · rcases Parse.andThen_exhausted h with cut | ⟨a, d', g', -, cut⟩
      · exact (ihq cut).mono fun e => .second first
      · cases cut
  | choose p q r ihp ihq ihr =>
    rcases Parse.either_exhausted h with cut | ⟨a, d, f', first, h⟩ | ⟨f', first, cut⟩
    · exact (ihp cut).mono fun e => .tried
    · rcases Parse.andThen_exhausted h with cut | ⟨g, d', g', -, cut⟩
      · exact (ihq cut).mono fun e => .chosen first
      · cases cut
    · exact (ihr cut).mono fun e => .other first
  | many p ih => exact (Reader.RunsOut.many ih h).mono fun e => .many
  | lineList p ih => exact (Reader.RunsOut.lineList ih h).mono fun e => .lines
  | commaList p ih =>
    simp only [Phrase.parse, Parse.commaList] at h
    split at h
    · cases h
    · next more =>
      rcases Parse.andThen_exhausted h with cut | ⟨a, d, f', ok, h⟩
      · exact (ih cut).mono fun e => .leading more
      · rcases Parse.andThen_exhausted (p := fun c => Parse.commaRest _ c.steps c) h with
          cut | ⟨as, d', g', -, cut⟩
        · exact (Reader.RunsOut.commaRest ih cut).mono fun e => .commas more ok
        · cases cut
  | group b p ih =>
    simp only [Phrase.parse, Parse.group] at h
    split at h
    · next opener closer children rest nodes =>
      split at h
      · next opened =>
        rcases Parse.andThen_exhausted h with cut | ⟨a, d, f', -, h⟩
        · exact (ih cut).mono fun e => .inside nodes opened
        · rcases Parse.andThen_exhausted h with cut | ⟨_, d', g', -, cut⟩
          · exact absurd cut (Parse.LastsAt.finish _ f')
          · cases cut
      · cases h
    · cases h
  | refuse keyword feature p r ihp ihr =>
    simp only [Phrase.parse, Parse.refuse] at h
    rcases Parse.either_exhausted h with cut | ⟨_, d, f', word, h⟩ | ⟨f', word, cut⟩
    · exact absurd cut (Parse.LastsAt.terminal _ f)
    · rcases Parse.andThen_exhausted h with cut | ⟨_, d', g', -, cut⟩
      · exact (ihp cut).mono fun e => .refused word
      · cases cut
    · exact (ihr cut).mono fun e => .allowed word
  | finish what => exact absurd h (Parse.LastsAt.finish what f)

end

/-! ## Calls within calls -/

namespace Call

variable {ρ : Type} {v w : Call ρ}

/-- More than the number of calls that can be nested in a call. -/
def depth (v : Call ρ) : Nat := 9 * v.cursor.left + v.production.level

/-- `w` stands ahead of `v`, or not behind it and on a lower level. -/
def Descends (v w : Call ρ) : Prop :=
  w.cursor.Valid ∧ (v.cursor.Ahead w.cursor ∨
    v.cursor.Reaches w.cursor ∧ w.production.level < v.production.level)

theorem Descends.trans {u : Call ρ} (h : u.Descends v) (h' : v.Descends w) : u.Descends w := by
  obtain ⟨-, ahead | ⟨reaches, less⟩⟩ := h
  · obtain ⟨valid, ahead' | ⟨reaches', -⟩⟩ := h'
    · exact ⟨valid, .inl (ahead.trans ahead')⟩
    · exact ⟨valid, .inl (ahead.reaches reaches')⟩
  · obtain ⟨valid, ahead' | ⟨reaches', less'⟩⟩ := h'
    · exact ⟨valid, .inl (reaches.ahead ahead')⟩
    · exact ⟨valid, .inr ⟨reaches.trans reaches', Nat.lt_trans less' less⟩⟩

theorem Descends.depth_lt (h : v.Descends w) : w.depth < v.depth := by
  have small := w.production.level_lt
  unfold depth
  rcases h.2 with ahead | ⟨reaches, less⟩
  · have := ahead.left_lt
    omega
  · have := reaches.left_le
    omega

variable [Notepad ρ]

/-- An incident of reading a production, but for those of the productions that it calls. -/
def Involves (v : Call ρ) (e : Incident ρ) : Prop :=
  (Reader.phrase v.production.phrase).Involves Production.read v.cursor v.notes e

/-- `w` is called while `v` is read, and not by another call. -/
def Calls (v w : Call ρ) : Prop := v.Involves (.call w)

/-- Whatever call reads productions in between: what the phrase of `v` calls descends from `v`. -/
theorem descends_of_involves {call : {α : Type} → Production α → Parse ρ α}
    (goes : ∀ {α} (n : Production α), Parse.Goes true (call n))
    (advances : ∀ {α} (n : Production α), n.advances → Parse.Advances (call n))
    (valid : v.cursor.Valid)
    (h : (Reader.phrase v.production.phrase).Involves call v.cursor v.notes (.call w)) :
    v.Descends w := by
  have sound := h.sound goes advances v.production.linesConsume_phrase valid
  refine ⟨sound.1, sound.2.imp_right fun ⟨reaches, less⟩ => ⟨reaches, ?_⟩⟩
  exact Nat.lt_of_lt_of_le less v.production.reach_phrase

theorem read_advances {α : Type} (n : Production α) (h : n.advances) :
    Parse.Advances (n.read : Parse ρ α) :=
  fun c _ _ _ _ valid ok => n.parse_advances (32 * (c.room + 1)) h valid ok

theorem read_goes {α : Type} (n : Production α) : Parse.Goes true (n.read : Parse ρ α) :=
  fun c _ _ _ _ valid ok => n.parse_goes (32 * (c.room + 1)) valid ok

theorem Calls.descends (h : v.Calls w) (valid : v.cursor.Valid) : v.Descends w :=
  descends_of_involves read_goes read_advances valid h

theorem descends_of_transGen (h : Relation.TransGen Calls v w) (valid : v.cursor.Valid) :
    v.Descends w := by
  induction h with
  | single called => exact called.descends valid
  | tail _ called ih => exact ih.trans (called.descends ih.1)

theorem valid_of_reflTransGen (h : Relation.ReflTransGen Calls v w) (valid : v.cursor.Valid) :
    w.cursor.Valid := by
  induction h with
  | refl => exact valid
  | tail _ called ih => exact (called.descends ih).1

/-- Calls that are nested in each other go down. -/
theorem length_le_depth {vs : List (Call ρ)} (nested : List.IsChain Calls (v :: vs))
    (valid : v.cursor.Valid) : vs.length ≤ v.depth := by
  induction vs generalizing v with
  | nil => exact Nat.zero_le _
  | cons w ws ih =>
    obtain ⟨called, rest⟩ := List.isChain_cons_cons.mp nested
    have descends := called.descends valid
    have shorter := ih rest descends.1
    have less := descends.depth_lt
    rw [List.length_cons]
    omega

/-- Fuel for the calls that can be nested in a call is enough for it. -/
theorem parse_lasts {fuel : Nat} (valid : v.cursor.Valid) (enough : v.depth < fuel) :
    v.production.parse fuel v.cursor v.notes ≠ .exhausted := by
  induction fuel generalizing v with
  | zero => omega
  | succ fuel ih =>
    intro cut
    obtain ⟨w, called, cut⟩ := v.production.phrase.runsOut cut
    have descends := descends_of_involves (fun n => n.parse_goes fuel)
      (fun n => n.parse_advances fuel) valid called
    have less := descends.depth_lt
    exact ih descends.1 (by omega) cut

end Call

/-! ## Programs -/

namespace Tree

/-- The call that reads the program of a tree. -/
def call (t : Tree Value) : Call Furthest := ⟨.program, t.start, {}⟩

/-- The calls that are made while the program of a tree is read, by whatever call. -/
def Makes (t : Tree Value) (v : Call Furthest) : Prop := Relation.ReflTransGen Call.Calls t.call v

/-- How reading the program of a tree comes to an end. -/
structure Ends (t : Tree Value) : Prop where
  /-- A production that is called within itself, by whatever calls in between, stands further on
  than where it was called before, in the same nodes or in a group among them. -/
  further : ∀ {α : Type} (n : Production α) (c d : Cursor) (f g : Furthest), t.Makes ⟨n, c, f⟩ →
    Relation.TransGen Call.Calls ⟨n, c, f⟩ ⟨n, d, g⟩ → c.Before d ∨ c.Encloses d
  /-- A lap after which a repetition goes on has moved the cursor. -/
  laps : ∀ (v : Call Furthest) (c d : Cursor), t.Makes v → v.Involves (.lap c d) → c.Before d
  /-- No repetition ends for want of laps. -/
  uncut : ∀ v : Call Furthest, t.Makes v → ¬v.Involves .cut
  /-- Calls that are nested in each other are nine times as many as there are nodes at most. -/
  nested : ∀ vs : List (Call Furthest), List.IsChain Call.Calls (t.call :: vs) →
    (t.call :: vs).length ≤ 9 * t.count
  /-- With as much fuel reading is not cut off, and comes to what the program is taken from. -/
  lasts : ∀ fuel : Nat, 9 * t.count ≤ fuel →
    Production.program.parse fuel t.start ({} : Furthest) ≠ .exhausted ∧
    Production.program.parse fuel t.start ({} : Furthest) =
      Production.program.parse t.fuel t.start {}

theorem depth_call (t : Tree Value) : t.call.depth + 2 ≤ 9 * t.count := by
  have level : Production.program.level = 1 := rfl
  simp only [Call.depth, call, level, Cursor.left, start, count]
  omega

/-- Fuel for the calls that can be nested in each other is enough for the program. -/
theorem parse_lasts (t : Tree Value) {fuel : Nat} (enough : 9 * t.count ≤ fuel) :
    Production.program.parse fuel t.start ({} : Furthest) ≠ .exhausted ∧
      Production.program.parse fuel t.start ({} : Furthest) =
        Production.program.parse t.fuel t.start {} := by
  have deep := t.depth_call
  have lasts : Production.program.parse fuel t.start ({} : Furthest) ≠ .exhausted :=
    Call.parse_lasts (v := t.call) t.start_valid (by omega)
  have enough' : 32 * t.start.room + Production.program.rank < t.fuel := by
    simp only [Cursor.room, start, Tree.fuel, Production.rank]
    omega
  refine ⟨lasts, ?_⟩
  rw [Production.program.parse_eq_read t.start_valid enough']
  exact ((Production.program.follows_read fuel t.start_valid rfl).eq lasts).symm

/-- Whatever the tree is, reading its program ends. -/
theorem program_ends (t : Tree Value) : t.Ends := by
  have deep := t.depth_call
  have sound {v : Call Furthest} {e : Incident Furthest} (made : t.Makes v) (h : v.Involves e) :
      e.Sound v.cursor v.production.phrase.reach :=
    h.sound Call.read_goes Call.read_advances v.production.linesConsume_phrase
      (Call.valid_of_reflTransGen made t.start_valid)
  refine ⟨?_, fun v c d made lap => sound made lap, fun v made cut => sound made cut, ?_,
    fun fuel enough => t.parse_lasts enough⟩
  · intro α n c d f g made again
    have valid := Call.valid_of_reflTransGen made t.start_valid
    rcases (Call.descends_of_transGen again valid).2 with (passes | encloses) | ⟨-, less⟩
    · exact .inl passes.before
    · exact .inr encloses
    · exact absurd less (Nat.lt_irrefl _)
  · intro vs nested
    have := Call.length_le_depth nested t.start_valid
    rw [List.length_cons]
    omega

/-- Before anything is passed, a declaration is looked for, even if there is nothing at all. -/
theorem program_ends_declaration :
    let t : Tree Value := ⟨[], .start⟩
    let declaration : Call Furthest := ⟨.declaration, t.start, {}⟩
    t.call.Calls declaration ∧ ¬ declaration.Involves .cut ∧
      (∀ c d, declaration.Involves (.lap c d) → c.Before d) ∧
      [t.call, declaration].length ≤ 9 * t.count := by
  intro t declaration
  have called : t.call.Calls declaration := .first (.first (.first (.second rfl .production)))
  have made : t.Makes declaration := .single called
  have ends := t.program_ends
  exact ⟨called, ends.uncut _ made, fun c d => ends.laps _ c d made,
    ends.nested [declaration] (.cons_cons called (.singleton _))⟩

end Tree

end RuleMachine
