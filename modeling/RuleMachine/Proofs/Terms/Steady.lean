import RuleMachine.Proofs.Terms.Guards

/-!
# What is read in the same way

Phrases whose parts are read in the same way if other nodes follow are so themselves
(`Phrase.Steady`). A comparison is one wherever the nodes that follow begin with none of its symbols
and words (`Comparison.steady`). Before the arrow of a rule it is so of all that a declaration and
a rule are made of (`Token.IsArrow`).
-/

namespace RuleMachine

open Plain

/-! ## Cursors with nodes behind that begin with no line break -/

/-- The nodes begin with one that is no line break. -/
def Node.Solid (more : List (Node Value)) : Prop := ∃ n ns, more = n :: ns ∧ ¬ n.isLine

namespace Cursor

variable {c d : Cursor} {more : List (Node Value)} {stop : Position}

theorem extend_skipLines_of_solid (valid : c.Valid) (solid : Node.Solid more) :
    (c.extend more stop).skipLines = c.skipLines.extend more stop := by
  by_cases atEnd : c.AtEnd
  · obtain ⟨nodes, split, place⟩ := c
    obtain rfl : split = 0 := atEnd.split_eq_zero valid
    obtain ⟨n, ns, rfl, text⟩ := solid
    have lines : nodes.dropWhile (·.isLine) = [] := atEnd
    simp [extend, Cursor.skipLines, List.dropWhile_append, lines, text]
  · exact extend_skipLines atEnd

theorem extend_position (front : c.nodes ≠ []) : (c.extend more stop).position = c.position := by
  obtain ⟨n, ns, nodes⟩ := List.exists_cons_of_ne_nil front
  rw [position, position, extend, nodes, List.cons_append]
  cases n <;> rfl

theorem extend_atLineOrEnd (front : c.nodes ≠ []) :
    (c.extend more stop).atLineOrEnd = c.atLineOrEnd := by
  obtain ⟨n, ns, nodes⟩ := List.exists_cons_of_ne_nil front
  rw [atLineOrEnd, atLineOrEnd, extend, nodes, List.cons_append]

/-- From the end there is nowhere to go. -/
theorem Before.nodes_ne (h : c.Before d) (valid : d.Valid) : c.nodes ≠ [] := by
  intro ended
  obtain ⟨-, ⟨same, less⟩ | ⟨n, passed, nodes⟩⟩ := h
  · obtain ⟨t, rest, front, -⟩ := valid.resolve_left (Nat.ne_of_gt (Nat.zero_lt_of_lt less))
    rw [same, ended] at front
    cases front
  · rw [ended] at nodes
    cases nodes

end Cursor

/-! ## What a phrase of several parts comes to -/

namespace Phrase

variable {α β : Type} {c d : Cursor}

section

variable {p : Phrase Production (α → β)} {q : Phrase Production α} {b : β}

theorem seq_ok_iff : (Phrase.seq p q).parse Production.read c () = .ok b d () ↔ ∃ g e a,
    p.parse Production.read c () = .ok g e () ∧ q.parse Production.read e () = .ok a d () ∧
      g a = b := by
  constructor
  · intro ok
    obtain ⟨g, e, _, first, second⟩ := Parse.andThen_ok ok
    obtain ⟨a, _, _, arg, ⟨⟩⟩ := Parse.andThen_ok second
    exact ⟨g, e, a, first, arg, rfl⟩
  · rintro ⟨g, e, a, first, arg, rfl⟩
    simp only [parse_seq, Parse.andThen, first, arg]

theorem seq_mismatch_iff : (Phrase.seq p q).parse Production.read c () = .mismatch () ↔
    p.parse Production.read c () = .mismatch () ∨ ∃ g e,
      p.parse Production.read c () = .ok g e () ∧ q.parse Production.read e () = .mismatch () := by
  rw [parse_seq, Parse.andThen]
  cases first : p.parse Production.read c () with
  | ok g e =>
    dsimp only [Parse.andThen]
    cases arg : q.parse Production.read e () with
    | mismatch => simp [arg]
    | ok | fatal | exhausted => simp [arg]
  | mismatch | fatal | exhausted => simp

end

section

variable {p q : Phrase Production α} {a : α}

theorem map_ok_iff {g : α → β} {b : β} : (g <$> p).parse Production.read c () = .ok b d () ↔
    ∃ a, p.parse Production.read c () = .ok a d () ∧ g a = b := by
  rw [map_eq, seq_ok_iff]
  simp [and_assoc]

theorem map_mismatch_iff {g : α → β} : (g <$> p).parse Production.read c () = .mismatch () ↔
    p.parse Production.read c () = .mismatch () := by
  rw [map_eq, seq_mismatch_iff]
  simp [and_assoc]

theorem orElse_ok_iff : (Phrase.orElse p q).parse Production.read c () = .ok a d () ↔
    p.parse Production.read c () = .ok a d () ∨
      p.parse Production.read c () = .mismatch () ∧ q.parse Production.read c () = .ok a d () := by
  rw [Phrase.orElse, parse_choose, Parse.either]
  cases p.parse Production.read c () with
  | ok a' e => simp [Parse.andThen]
  | mismatch | fatal | exhausted => simp

theorem orElse_mismatch_iff : (Phrase.orElse p q).parse Production.read c () = .mismatch () ↔
    p.parse Production.read c () = .mismatch () ∧ q.parse Production.read c () = .mismatch () := by
  rw [Phrase.orElse, parse_choose, Parse.either]
  cases p.parse Production.read c () with
  | ok a' e => simp [Parse.andThen]
  | mismatch | fatal | exhausted => simp

theorem optional_ok_iff {o : Option α} :
    (Phrase.optional p).parse Production.read c () = .ok o d () ↔
      (∃ a, p.parse Production.read c () = .ok a d () ∧ some a = o) ∨
        p.parse Production.read c () = .mismatch () ∧ none = o ∧ c = d := by
  rw [Phrase.optional, parse_choose, Parse.either]
  cases p.parse Production.read c () with
  | ok a' e => simp [Parse.andThen, and_comm]
  | mismatch | fatal | exhausted => simp

end

end Phrase

/-! ## Phrases of steady parts -/

theorem Parse.SteadyAt.refuse {α : Type} {c : Cursor} {more : List (Node Value)}
    (keyword feature : String) {p : Parse Unit Unit} {r : Parse Unit α} (valid : c.Valid)
    (solid : Node.Solid more)
    (word : SteadyAt more (Parse.terminal (.word keyword)) c.skipLines)
    (hp : ∀ d, d.Valid → SteadyAt more p d) (hr : SteadyAt more r c.skipLines) :
    SteadyAt more (Parse.refuse keyword feature p r) c := by
  intro stop
  unfold Parse.refuse
  rw [Cursor.extend_skipLines_of_solid valid solid]
  dsimp only [Parse.either]
  rw [word stop]
  cases first : Parse.terminal (.word keyword) c.skipLines () with
  | ok _ d =>
    obtain ⟨valid', -, before⟩ := Parse.Goes.terminal _ valid.skipLines first
    have front := (before rfl).nodes_ne valid'
    simp only [Reply.extend, Parse.andThen, hp d valid' stop, Cursor.extend_position front]
    cases p d () <;> rfl
  | mismatch => exact hr stop
  | fatal | exhausted => rfl

namespace Phrase.Steady

variable {α β : Type} {more : List (Node Value)}

theorem fail (what : Option String) : Steady more (.fail what : Phrase Production α) := by
  cases what <;> exact fun _ _ _ => rfl

theorem seq {p : Phrase Production (α → β)} {q : Phrase Production α} (hp : Steady more p)
    (hq : Steady more q) : Steady more (.seq p q) :=
  fun c valid => SteadyAt.seq (hp c valid) fun _ d first =>
    hq d (p.parse_goes Production.read_goes valid first).1

theorem map {p : Phrase Production α} (g : α → β) (hp : Steady more p) : Steady more (g <$> p) :=
  fun c valid => Phrase.SteadyAt.map g (hp c valid)

theorem orElse {p q : Phrase Production α} (hp : Steady more p) (hq : Steady more q) :
    Steady more (.orElse p q) :=
  fun c valid => Phrase.SteadyAt.orElse (hp c valid) (hq c valid)

theorem choose {p : Phrase Production α} {q : Phrase Production (α → β)} {r : Phrase Production β}
    (hp : Steady more p) (hq : Steady more q) (hr : Steady more r) :
    Steady more (.choose p q r) := by
  intro c valid
  refine Parse.SteadyAt.either (hp c valid) (fun a d first => ?_) (hr c valid)
  exact Parse.SteadyAt.andThen (hq d (p.parse_goes Production.read_goes valid first).1)
    fun g _ _ => .pure (g a)

theorem oneOf {ps : List (Phrase Production α)} (h : ∀ p ∈ ps, Steady more p) :
    Steady more (.oneOf ps) := by
  induction ps with
  | nil => exact .fail _
  | cons p ps ih =>
    obtain ⟨here, there⟩ := List.forall_mem_cons.mp h
    cases ps with
    | nil => exact here
    | cons => exact .orElse here (ih there)

theorem optional {p : Phrase Production α} (hp : Steady more p) : Steady more (.optional p) :=
  fun c valid => Phrase.SteadyAt.optional (hp c valid)

theorem production {n : Production α} (h : Steady more n.phrase) : Steady more (.production n) :=
  fun c valid => Phrase.SteadyAt.production valid (h c valid)

/-- A terminal that does not come next in what follows. -/
theorem terminal {x : Terminal α}
    (refuses : ∀ stop, Parse.terminal x { nodes := more, stop } () = .mismatch ()) :
    Steady more (.terminal x) := by
  intro c valid
  exact Phrase.SteadyAt.of_passes valid (Phrase.Passes.terminal x)
    (fun _ => Parse.terminal_nil x) refuses fun inside => Parse.SteadyAt.terminal valid inside x

/-- A node, where what follows begins with none. -/
theorem single {p : Phrase Production α} (single : Single p)
    (refuses : ∀ stop, p.parse Production.read { nodes := more, stop } () = .mismatch ()) :
    Steady more p := by
  intro c valid
  exact Phrase.SteadyAt.of_passes valid single.passes single.nothing refuses
    (single.steadyAt valid)

theorem separatedBy {symbol : String} {p : Phrase Production α}
    (hs : (Phrase.symbol symbol).Steady more) (hp : Steady more p) (consumes : p.consumes) :
    Steady more (.separatedBy symbol p) :=
  .seq (.map _ hp) (.many (by simp [consumes]) (.seq (.map _ hs) hp))

theorem refuse (keyword feature : String) {p : Phrase Production Unit} {r : Phrase Production α}
    (solid : Node.Solid more) (word : (Phrase.word keyword).Steady more) (hp : Steady more p)
    (hr : Steady more r) : Steady more (.refuse keyword feature p r) := fun _ valid =>
  Parse.SteadyAt.refuse keyword feature valid solid (word _ valid.skipLines) hp
    (hr _ valid.skipLines)

/-- The items of a line, where what follows begins with none of them. -/
theorem lineList {p : Phrase Production α} (consumes : p.consumes) (solid : Node.Solid more)
    (refuses : ∀ stop, p.parse Production.read { nodes := more, stop } () = .mismatch ())
    (hp : Steady more p) : Steady more (.lineList p) := by
  intro c valid
  induction left : c.steps using Nat.strong_induction_on generalizing c with
  | h steps ih =>
    intro stop
    rw [parse_lineList consumes valid.extend, parse_lineList consumes valid]
    by_cases atEnd : c.nodes = []
    · -- Nothing is taken: neither here, at the end, nor in front of what follows.
      obtain ⟨nodes, split, place⟩ := c
      obtain rfl : nodes = [] := atEnd
      obtain rfl : split = 0 := valid.resolve_right (by rintro ⟨_, _, ⟨⟩, -⟩)
      obtain ⟨n, ns, rfl, text⟩ := solid
      simp [Cursor.atLineOrEnd, Cursor.extend, text, refuses stop, Reply.extend]
    · rw [Cursor.extend_atLineOrEnd atEnd]
      split
      · rfl
      refine Parse.SteadyAt.either (hp c valid) (fun a d first => ?_) (.pure []) stop
      obtain ⟨valid', -, before⟩ := p.parse_goes Production.read_goes valid first
      have less := (before consumes).steps_lt valid valid'
      exact Parse.SteadyAt.andThen (ih d.steps (left ▸ less) d valid' rfl) fun as _ _ =>
        .pure (a :: as)

end Phrase.Steady

/-! ## Comparisons -/

namespace Comparison

variable {more : List (Node Value)}

theorem steady
    (symbols : ∀ op ∈ Comparison.symbols, ∀ stop,
      Parse.terminal (.symbol op.symbol) { nodes := more, stop } () = .mismatch ())
    (words : ∀ text ∈ ["in", "not", "is"], ∀ stop,
      Parse.terminal (.word text) { nodes := more, stop } () = .mismatch ()) :
    (Phrase.production Production.comparison).Steady more := by
  refine .production (phrase_eq ▸ .oneOf fun p mem => ?_)
  have word (text : String) (mem : text ∈ ["in", "not", "is"]) : (Phrase.word text).Steady more :=
    .terminal (words text mem)
  rcases List.mem_append.mp mem with symbol | worded
  · obtain ⟨op, listed, rfl⟩ := List.mem_map.mp symbol
    exact .map _ (.terminal (symbols op listed))
  · simp only [Comparison.worded, List.mem_cons, List.not_mem_nil, or_false] at worded
    rcases worded with rfl | rfl | rfl
    · exact .map _ (word "in" (by decide))
    · exact .map _ (.seq (.map _ (word "not" (by decide))) (word "in" (by decide)))
    · exact .map _ (.seq (.map _ (word "is" (by decide))) (.optional (word "not" (by decide))))

end Comparison

/-! ## Before the arrow of a rule -/

/-- A symbol that an arrow is read from: the arrow, perhaps with the sign of a tag behind it. -/
structure Token.IsArrow (t : Token Value) : Prop where
  isSymbol : t.isSymbol
  front : "->".toList <+: t.text.toList

namespace Single

theorem fieldKey : Single (.production .fieldKey) :=
  .production (.orElse (.terminal rfl) (.terminal rfl))

theorem pattern : Single (.production .pattern) :=
  .production (.orElse (.map _ (.group _ _)) (.orElse (.map _ (.group _ _)) (.orElse (.group _ _)
    (.orElse (constant _ _) (.orElse (.map _ literal) (.map _ (.terminal rfl)))))))

end Single

namespace Token.IsArrow

open Phrase (Steady)

variable {α : Type} {t : Token Value} {ns : List (Node Value)} (h : t.IsArrow)
include h

theorem stuck (stop : Position) : Cursor.Stuck { nodes := .token t :: ns, stop } :=
  Cursor.stuck_of_symbol (congrArg Cursor.nodes (Cursor.skipLines_symbol h.isSymbol)) h.isSymbol

theorem solid : Node.Solid (.token t :: ns) := by
  refine ⟨_, _, rfl, ?_⟩
  have symbol := h.isSymbol
  obtain ⟨kind, text, place⟩ := t
  cases kind <;> simp_all [Node.isLine, Token.isLine, Token.isSymbol]

/-- Only a symbol that begins as the arrow does is read from it. -/
theorem symbol_mismatch {text : String} (other : text.toList.head? ∉ [none, some '-'])
    (stop : Position) :
    Parse.terminal (.symbol text) { nodes := .token t :: ns, stop } () = .mismatch () := by
  obtain ⟨rest, whole⟩ := h.front
  have fits : ¬ text.toList <+: t.text.toList := by
    rw [← whole]
    cases chars : text.toList with
    | nil => simp [chars] at other
    | cons c cs =>
      rw [chars] at other
      rintro starts
      have same : c = '-' := (List.cons_prefix_cons.mp starts).1
      exact other (by simp [same])
  have none : Parse.terminal? { nodes := .token t :: ns, stop } (.symbol text) = none := by
    rw [Parse.terminal?_symbol rfl]
    simp [Cursor.rest, fits]
  rw [Parse.terminal, Cursor.skipLines_symbol h.isSymbol, none]
  rfl

theorem bars : Bars (.token t :: ns) := by
  have longer : ∀ text ∈ Operator.symbols, ¬ "->".toList <+: text.toList := by decide
  exact .of_symbol h.isSymbol fun mem => longer _ mem h.front

/-- No node is read from it. -/
theorem single {p : Phrase Production α} (single : Single p) : Steady (.token t :: ns) p :=
  .single single fun stop => single.stuck (.inl rfl) (h.stuck stop)

theorem word (text : String) : (Phrase.word text).Steady (.token t :: ns) :=
  h.single (.terminal rfl)

theorem symbol (text : String) (other : text.toList.head? ∉ [none, some '-']) :
    (Phrase.symbol text).Steady (.token t :: ns) :=
  .terminal (h.symbol_mismatch other)

/-! ### Fields and tagged forms -/

theorem pair_mismatch (value : Production α) (shorthand : String → String × α) (stop : Position) :
    (Production.pair value shorthand).parse Production.read { nodes := .token t :: ns, stop } () =
      .mismatch () := by
  have stuck : Cursor.Stuck { nodes := .token t :: ns, stop } := h.stuck stop
  have key := Single.fieldKey.stuck (.inl rfl) stuck
  have ident := (Single.terminal (x := .ident) rfl).stuck (.inl rfl) stuck
  simp only [Production.pair, Phrase.orElse, Phrase.map_eq, Phrase.seq_eq, Phrase.seqLeft_eq,
    Phrase.parse_choose, Phrase.parse_seq, Phrase.parse_pure, Parse.either, Parse.andThen, key,
    ident]

theorem pair {value : Production α} (steady : Steady (.token t :: ns) (.production value))
    (shorthand : String → String × α) : (Production.pair value shorthand).Steady (.token t :: ns) :=
  .orElse (.seq (.map _ (.seq (.map _ (h.single .fieldKey)) (h.symbol ":" (by decide))))
    steady) (.map _ (h.single (.terminal rfl)))

theorem taggedForm {β : Type} {field : Production α}
    (refuses : ∀ stop, (Phrase.production field).parse Production.read
      { nodes := .token t :: ns, stop } () = .mismatch ())
    (steady : Steady (.token t :: ns) (.production field)) (build : String → List α → β) :
    (Production.taggedForm field build).Steady (.token t :: ns) := by
  have name : Steady (.token t :: ns) (.terminal .name) := h.single (.terminal rfl)
  have sign : (Phrase.symbol "#").Steady (.token t :: ns) := h.symbol "#" (by decide)
  have fields : Steady (.token t :: ns) (.lineList (.production field)) :=
    .lineList rfl h.solid refuses steady
  exact .seq (.map _ (.seq (.map _ sign) name)) fields

theorem patternField : Steady (.token t :: ns) (.production .patternField) :=
  .production (h.pair (h.single .pattern) _)

theorem tagPattern : Steady (.token t :: ns) (.production .tagPattern) := by
  refine .production (.orElse (h.taggedForm (fun stop => ?_) h.patternField _) (h.single .pattern))
  rw [Phrase.parse_production, Production.read_cons]
  exact h.pair_mismatch _ _ stop

theorem exprField : Steady (.token t :: ns) (.production .exprField) :=
  .production (h.pair h.bars.steady_expr _)

theorem tagExpr : Steady (.token t :: ns) (.production .tagExpr) := by
  refine .production (.orElse (h.taggedForm (fun stop => ?_) h.exprField _) h.bars.steady_expr)
  rw [Phrase.parse_production, Production.read_cons]
  exact h.pair_mismatch _ _ stop

/-! ### Left sides of rules -/

theorem comparison : Steady (.token t :: ns) (.production .comparison) := by
  have heads : ∀ op ∈ Comparison.symbols, op.symbol.toList.head? ∉ [none, some '-'] := by decide
  refine Comparison.steady (fun op mem => h.symbol_mismatch (heads op mem)) fun text _ stop => ?_
  exact (Single.terminal (x := .word text) rfl).stuck (.inl rfl) (h.stuck stop)

theorem cond : Steady (.token t :: ns) (.production .cond) :=
  .production (.orElse (h.single (.group _ _)) (.orElse (.map _ (h.single (.terminal rfl)))
    (.orElse (.seq (.seq (.map _ h.bars.steady_expr) h.comparison) h.bars.steady_expr)
      (.map _ h.bars.steady_expr))))

theorem state : Steady (.token t :: ns) (.production .state) :=
  .production (.orElse (h.single (.group _ _)) (.map _ h.tagPattern))

theorem stateOrCond : Steady (.token t :: ns) Production.phrase.stateOrCond :=
  .orElse (.map _ h.state) (.map _ h.cond)

theorem event : Steady (.token t :: ns) (.production .event) :=
  .production (.orElse (.map _ h.tagPattern)
    (.refuse _ _ h.solid (h.word _)
      (.seq (.map _ (h.single (.terminal rfl))) (.orElse (h.word _) (h.word _)))
      (.refuse _ _ h.solid (h.word _) h.stateOrCond
        (.refuse _ _ h.solid (h.word _) h.stateOrCond (.fail _)))))

theorem condEvent : Steady (.token t :: ns) (.production .condEvent) :=
  .production (.orElse
    (.seq (.seq (.map _ (.seq (.map _ h.state) (h.symbol "@" (by decide)))) h.event)
      (.optional (.seq (.map _ (h.word _)) h.cond)))
    (h.single (.group _ _)))

theorem orEvent : Steady (.token t :: ns) (.production .orEvent) :=
  .production (.map _ (.separatedBy (h.symbol "|" (by decide)) h.condEvent rfl))

/-! ### Effects -/

theorem action : Steady (.token t :: ns) (.production .action) :=
  .production (.orElse (.map _ (h.single (.group _ _)))
    (.choose (h.word _) (.map _ h.tagExpr)
      (.choose (h.word _) (.map _ (h.single (.terminal rfl)))
        (.choose (h.word _) (.map _ (h.single (.terminal rfl))) (.fail _)))))

theorem joinedActions : Steady (.token t :: ns) (.many (.production .joinedAction)) :=
  .many rfl (.production (.seq (.map _ (h.symbol "&" (by decide))) h.action))

theorem andEffect : Steady (.token t :: ns) (.production .andEffect) :=
  .production (.orElse (.seq (.map _ h.tagExpr) h.joinedActions)
    (.seq (.map _ h.action) h.joinedActions))

theorem condEffect : Steady (.token t :: ns) (.production .condEffect) :=
  .production (.seq (.map _ h.andEffect) (.optional (.seq (.map _ (h.word _)) h.cond)))

theorem orEffect : Steady (.token t :: ns) (.production .orEffect) :=
  .production (.map _ (.separatedBy (h.symbol "|" (by decide)) h.condEffect rfl))

/-! ### Declarations -/

theorem extension : Steady (.token t :: ns)
    ((fun dest source => Declaration.extension ⟨dest, source⟩) <$>
      (.production .tagExpr <* .word "extends") <*> .production .tagPattern) :=
  .seq (.map _ (.seq (.map _ h.tagExpr) (h.word _))) h.tagPattern

theorem tagPatterns : Steady (.token t :: ns) (.production .tagPatterns) :=
  .production (.map _ (.separatedBy (h.symbol "|" (by decide)) h.tagPattern rfl))

theorem declaration : Steady (.token t :: ns) (.production .declaration) := by
  have keyed {α : Type} (text : String) {n : Production α} (g : α → Declaration)
      (steady : Steady (.token t :: ns) (.production n)) : Steady (.token t :: ns)
        (g <$> (Phrase.word text *> Phrase.symbol "=" *> .production n)) := by
    have equals : (Phrase.symbol "=").Steady (.token t :: ns) := h.symbol "=" (by decide)
    exact .map g (.seq (.map _ (.seq (.map _ (h.word text)) equals)) steady)
  exact .production (.orElse (keyed "states" .states h.tagPatterns)
    (.orElse (keyed "actions" .actions h.tagPatterns) (keyed "start" .start h.tagExpr)))

end Token.IsArrow

end RuleMachine
