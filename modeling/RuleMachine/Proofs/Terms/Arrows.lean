import RuleMachine.Proofs.Grammar.Whole
import RuleMachine.Proofs.Terms.Brackets

/-!
# Rules around their arrows

A rule is a left side, an arrow and an effect. The arrow may be one token with the sign of a tag
that the effect begins with (`Arrowed`). With the effect in round brackets the nodes are a rule
again (`rule_bracketed`), and the rules before it are read as they were (`Reacts.steady_rule`).
-/

namespace RuleMachine

open Plain

/-! ## Arrows -/

/-- An arrow and the effect after it. The sign of a tag at the front of the effect may be written in
one token with the arrow. -/
inductive Arrowed : List (Node Value) → List (Node Value) → Prop
  | apart {t : Token Value} {effect : List (Node Value)} :
      t.isSymbol → t.text = "->" → Arrowed (.token t :: effect) effect
  | joined {t sign : Token Value} {effect : List (Node Value)} : t.isSymbol → t.text = "->#" →
      sign.isSymbol → sign.text = "#" → Arrowed (.token t :: effect) (.token sign :: effect)

/-- What comes after the effect is cut off. -/
theorem Arrowed.cut {whole passed back : List (Node Value)} {n : Node Value}
    (h : Arrowed whole (n :: passed ++ back)) :
    ∃ front, whole = front ++ back ∧ Arrowed front (n :: passed) := by
  generalize split : n :: passed ++ back = effect at h
  cases h with
  | apart symbol text => exact ⟨_, by rw [← split]; rfl, .apart symbol text⟩
  | joined symbol text symbol' text' =>
    obtain ⟨rfl, rfl⟩ := List.cons.inj split
    exact ⟨_, rfl, .joined symbol text symbol' text'⟩

/-- The same is read at two cursors. -/
def Phrase.Same {α : Type} (c c' : Cursor) (p : Phrase Production α) : Prop :=
  p.parse Production.read c () = p.parse Production.read c' ()

namespace Phrase.Same

variable {α β : Type} {c c' : Cursor}

theorem seq {p : Phrase Production (α → β)} (h : p.Same c c') (q : Phrase Production α) :
    (Phrase.seq p q).Same c c' := by
  unfold Same
  rw [parse_seq, Parse.andThen, Parse.andThen, h]

theorem map (g : α → β) {p : Phrase Production α} (h : p.Same c c') : (g <$> p).Same c c' := by
  unfold Same
  simp only [map_eq, parse_seq, parse_pure, Parse.andThen]
  rw [h]

theorem choose {p : Phrase Production α} {r : Phrase Production β} (hp : p.Same c c')
    (q : Phrase Production (α → β)) (hr : r.Same c c') : (Phrase.choose p q r).Same c c' := by
  unfold Same at *
  rw [parse_choose, Parse.either, Parse.either, hp]
  cases p.parse Production.read c' () with
  | mismatch => exact hr
  | ok | fatal | exhausted => rfl

theorem orElse {p q : Phrase Production α} (hp : p.Same c c') (hq : q.Same c c') :
    (Phrase.orElse p q).Same c c' :=
  choose hp _ hq

theorem production {n : Production α} (valid : c.Valid) (valid' : c'.Valid)
    (h : n.phrase.Same c c') : (Phrase.production n).Same c c' := by
  unfold Same
  rw [parse_production, n.read_eq valid, n.read_eq valid']
  exact h

/-- Of a symbol an effect reads the sign of a tag only. -/
theorem orEffect (valid : c.Valid) (valid' : c'.Valid) (stuck : c.Stuck) (stuck' : c'.Stuck)
    (tagged : (Production.taggedForm .exprField Expr.tagged).Same c c') :
    (Phrase.production .orEffect).Same c c' := by
  have single {α : Type} {p : Phrase Production α} (single : Single p) : p.Same c c' :=
    (single.stuck valid stuck).trans (single.stuck valid' stuck').symm
  have expr : (Phrase.production .expr).Same c c' := by
    unfold Same
    rw [parse_production, expr_mismatch valid (Single.operand.stuck valid stuck),
      expr_mismatch valid' (Single.operand.stuck valid' stuck')]
  have word (text : String) : (Phrase.word text).Same c c' := single (.terminal rfl)
  have tagExpr : (Phrase.production .tagExpr).Same c c' :=
    .production valid valid' (.orElse tagged expr)
  have action : (Phrase.production .action).Same c c' :=
    .production valid valid' (.orElse (.map _ (single (.group _ _)))
      (.choose (word _) _ (.choose (word _) _ (.choose (word _) _ (single (.fail _))))))
  have andEffect : (Phrase.production .andEffect).Same c c' :=
    .production valid valid' (.orElse (.seq (.map _ tagExpr) _) (.seq (.map _ action) _))
  have condEffect : (Phrase.production .condEffect).Same c c' :=
    .production valid valid' (.seq (.map _ andEffect) _)
  exact .production valid valid' (.map _ (.seq (.map _ condEffect) _))

end Phrase.Same

section

open Phrase

variable {t : Token Value} {ns rest : List (Node Value)} {stop : Position} {c d : Cursor}
  {e : Effect}

/-- A symbol is the next piece of its token, or it is not read. -/
theorem Parse.symbol_token (symbol : t.isSymbol) (text : String) (split : Nat) :
    terminal (.symbol text) { nodes := .token t :: rest, split, stop } () =
      if text.toList.isPrefixOf (t.text.toList.drop split) then
        .ok () (if t.text.length ≤ split + text.length then { nodes := rest, stop }
          else { nodes := .token t :: rest, split := split + text.length, stop }) ()
      else .mismatch () := by
  have here : Cursor.skipLines { nodes := .token t :: rest, split, stop } =
      { nodes := .token t :: rest, split, stop } := by
    by_cases zero : split = 0
    · subst zero
      exact Cursor.skipLines_symbol symbol
    · exact if_neg zero
  rw [terminal, here, terminal?_symbol rfl]
  simp only [symbol, Bool.true_and, Cursor.rest]
  by_cases fits : text.toList.isPrefixOf (t.text.toList.drop split)
  · rw [if_pos fits, if_pos fits]
    rfl
  · rw [if_neg fits, if_neg fits]
    rfl

/-- The last piece of a token is read with it. -/
theorem Parse.symbol_last (symbol : t.isSymbol) {text : String} {split : Nat}
    (last : t.text.toList.drop split = text.toList) :
    terminal (.symbol text) { nodes := .token t :: rest, split, stop } () =
      .ok () { nodes := rest, stop } () := by
  have short : t.text.length ≤ split + text.length := by
    have lengths := congrArg List.length last
    rw [List.length_drop, String.length_toList, String.length_toList] at lengths
    omega
  rw [symbol_token symbol, last, if_pos (List.isPrefixOf_iff_prefix.mpr (List.prefix_refl _)),
    if_pos short]

theorem text_eq_of_front {text whole : String} (front : text.toList <+: whole.toList)
    (short : whole.length ≤ text.length) : whole = text := by
  refine (String.toList_inj.mp (front.eq_of_length_le ?_)).symm
  rw [String.length_toList, String.length_toList]
  exact short

/-- Behind an arrow in the same token comes the sign of a tag at most. -/
theorem text_of_split (symbol : t.isSymbol) (front : "->".toList <+: t.text.toList)
    (longer : 2 < t.text.length)
    (read : (Phrase.production .orEffect).parse Production.read
      { nodes := .token t :: rest, split := 2, stop } () = .ok e d ()) : t.text = "->#" := by
  have valid : Cursor.Valid { nodes := .token t :: rest, split := 2, stop } :=
    .inr ⟨t, rest, rfl, symbol, longer⟩
  by_contra other
  -- Without the sign, or with more behind it, an effect would be read at the end, too.
  have tag : (Phrase.symbol "#" *> .terminal .name).parse Production.read
      { nodes := .token t :: rest, split := 2, stop } () = .mismatch () := by
    refine seq_mismatch_iff.mpr ?_
    by_cases fits : "#".toList.isPrefixOf (t.text.toList.drop 2)
    · obtain ⟨tail, whole⟩ := front
      have sign : "->#".toList <+: t.text.toList := by
        rw [← whole] at fits ⊢
        obtain ⟨tail', whole'⟩ : "#".toList <+: tail := List.isPrefixOf_iff_prefix.mp fits
        exact ⟨tail', by rw [← whole']; rfl⟩
      have more : ¬ t.text.length ≤ 3 := fun short => other (text_eq_of_front sign short)
      have taken : (Phrase.symbol "#").parse Production.read
          { nodes := .token t :: rest, split := 2, stop } () =
            .ok () { nodes := .token t :: rest, split := 3, stop } () := by
        refine (Parse.symbol_token symbol "#" 2).trans ?_
        rw [if_pos fits]
        exact congrArg (Reply.ok () · ()) (if_neg more)
      have inside : Cursor.Valid { nodes := .token t :: rest, split := 3, stop } :=
        .inr ⟨t, rest, rfl, symbol, Nat.lt_of_not_le more⟩
      have name : Single (.terminal .name) := .terminal rfl
      exact .inr ⟨_, _, map_ok_iff.mpr ⟨(), taken, rfl⟩,
        name.stuck inside (inside.stuck (Nat.succ_ne_zero 2))⟩
    · refine .inl (map_mismatch_iff.mpr ((Parse.symbol_token symbol "#" 2).trans ?_))
      rw [if_neg fits]
  have none : (Production.taggedForm .exprField Expr.tagged).parse Production.read
      { nodes := [], stop } () = .mismatch () := by simp
  have atEnd : Cursor.AtEnd { nodes := [], stop } := rfl
  have same := Same.orEffect valid (.inl rfl) (valid.stuck (Nat.succ_ne_zero 1)) atEnd.stuck
    ((seq_mismatch (map_mismatch_iff.mpr tag) _).trans none.symm)
  have ended := same.symm.trans read
  obtain ⟨valid', -, before⟩ := Phrase.parse_goes Production.read_goes _ (.inl rfl) ended
  exact (before rfl).nodes_ne valid' rfl

/-- What is read after an arrow is the effect that comes with it. -/
theorem arrowed_of_read
    (arrow : (Phrase.symbol "->").parse Production.read { nodes := ns, stop } () = .ok () c ())
    (read : (Phrase.production .orEffect).parse Production.read c () = .ok e d ()) :
    ∃ lines t rest effect, ns = lines ++ .token t :: rest ∧ (∀ n ∈ lines, Node.isLine n) ∧
      t.IsArrow ∧ Arrowed (.token t :: rest) effect ∧
      (Phrase.production .orEffect).parse Production.read { nodes := effect, stop } () =
        .ok e d () := by
  have fits : Parse.terminal (.symbol "->") { nodes := ns, stop } () ≠ .mismatch () := by
    intro none
    cases arrow.symm.trans none
  obtain ⟨t, rest, nodes, symbol, front⟩ := Parse.symbol_front fits
  have here : (Phrase.symbol "->").parse Production.read { nodes := .token t :: rest, stop } () =
      .ok () c () := by
    rw [← nodes, ← arrow]
    exact (Passes.terminal (.symbol "->")).skipLines ns stop
  have split : ns = ns.takeWhile (·.isLine) ++ .token t :: rest := by
    rw [← nodes]
    exact List.takeWhile_append_dropWhile.symm
  have taken := here.symm.trans (Parse.symbol_token symbol "->" 0)
  rw [List.drop_zero, if_pos (List.isPrefixOf_iff_prefix.mpr front)] at taken
  obtain ⟨-, rfl, -⟩ := Reply.ok.inj taken
  by_cases short : t.text.length ≤ 2
  · refine ⟨_, t, rest, rest, split, fun _ => List.mem_takeWhile_imp, ⟨symbol, front⟩,
      .apart symbol (text_eq_of_front front short), ?_⟩
    rw [← read]
    exact congrArg (Phrase.parse Production.read _ · ()) (if_pos short).symm
  · have longer := Nat.lt_of_not_le short
    have read : (Phrase.production .orEffect).parse Production.read
        { nodes := .token t :: rest, split := 2, stop } () = .ok e d () := by
      rw [← read]
      exact congrArg (Phrase.parse Production.read _ · ()) (if_neg short).symm
    have text := text_of_split symbol front longer read
    let sign : Token Value := ⟨.operator, "#", t.position⟩
    refine ⟨_, t, rest, .token sign :: rest, split, fun _ => List.mem_takeWhile_imp,
      ⟨symbol, front⟩, .joined symbol text rfl rfl, ?_⟩
    have valid : Cursor.Valid { nodes := .token t :: rest, split := 2, stop } :=
      .inr ⟨t, rest, rfl, symbol, longer⟩
    have stuck : Cursor.Stuck { nodes := .token sign :: rest, stop } :=
      Cursor.stuck_of_symbol rfl rfl
    have taken : (Phrase.symbol "#").Same { nodes := .token t :: rest, split := 2, stop }
        { nodes := .token sign :: rest, stop } := by
      have last : t.text.toList.drop 2 = "#".toList := by
        rw [text]
        rfl
      exact (Parse.symbol_last symbol last).trans (Parse.symbol_last (t := sign) rfl rfl).symm
    have same := Same.orEffect valid (.inl rfl) (valid.stuck (Nat.succ_ne_zero 1)) stuck
      (.seq (.map _ (.seq (.map _ taken) _)) _)
    exact same.symm.trans read

end

/-! ## Rules -/

/-- What reacts: the left side of a rule, an arrow and an effect. -/
def ruled : Phrase Production Declaration :=
  .seq ((fun on effect => .rule ⟨on, effect⟩) <$> (.production .orEvent <* .symbol "->"))
    (.production .orEffect)

def extended : Phrase Production Declaration :=
  .seq ((fun dest source => .extension ⟨dest, source⟩) <$>
    (.production .tagExpr <* .word "extends")) (.production .tagPattern)

theorem rule_phrase : Production.rule.phrase = .orElse ruled extended := rfl

section

open Phrase

variable {c c₁ c₂ d : Cursor} {on : Step} {e : Effect} {r : Rule}

theorem ruled_ok_iff {x : Declaration} : ruled.parse Production.read c () = .ok x d () ↔
    ∃ on e c₁ c₂, (Phrase.production .orEvent).parse Production.read c () = .ok on c₁ () ∧
      (Phrase.symbol "->").parse Production.read c₁ () = .ok () c₂ () ∧
      (Phrase.production .orEffect).parse Production.read c₂ () = .ok e d () ∧
      Declaration.rule ⟨on, e⟩ = x := by
  constructor
  · intro read
    obtain ⟨g, c₂, e, front, effect, rfl⟩ := seq_ok_iff.mp read
    obtain ⟨_, both, rfl⟩ := map_ok_iff.mp front
    obtain ⟨_, c₁, _, first, arrow, rfl⟩ := seq_ok_iff.mp both
    obtain ⟨on, event, rfl⟩ := map_ok_iff.mp first
    exact ⟨on, e, c₁, c₂, event, arrow, effect, rfl⟩
  · rintro ⟨on, e, c₁, c₂, event, arrow, effect, rfl⟩
    exact seq_ok_iff.mpr ⟨_, c₂, e, map_ok_iff.mpr ⟨on, seq_ok_iff.mpr
      ⟨_, c₁, (), map_ok_iff.mpr ⟨on, event, rfl⟩, arrow, rfl⟩, rfl⟩, effect, rfl⟩

theorem ruled_of_rule (valid : c.Valid)
    (read : Production.rule.read c () = .ok (.rule r) d ()) :
    ruled.parse Production.read c () = .ok (.rule r) d () := by
  rw [Production.rule.read_eq valid, rule_phrase] at read
  rcases orElse_ok_iff.mp read with whole | ⟨-, other⟩
  · exact whole
  · obtain ⟨g, e, source, front, -, same⟩ := seq_ok_iff.mp other
    obtain ⟨dest, -, rfl⟩ := map_ok_iff.mp front
    cases same

theorem rule_of_ruled (valid : c.Valid) {x : Declaration}
    (read : ruled.parse Production.read c () = .ok x d ()) :
    Production.rule.read c () = .ok x d () := by
  rw [Production.rule.read_eq valid, rule_phrase]
  exact orElse_ok_iff.mpr (.inl read)

end

/-- The nodes begin with an arrow that has an effect after it. -/
structure Reacts (more : List (Node Value)) (stop : Position) : Prop where
  front : ∃ t rest, more = .token t :: rest ∧ t.IsArrow
  effect : ∃ c e d, (Phrase.symbol "->").parse Production.read { nodes := more, stop } () =
    .ok () c () ∧ (Phrase.production .orEffect).parse Production.read c () = .ok e d ()

section

open Phrase

variable {c d : Cursor} {more : List (Node Value)} {stop : Position}

/-- A rule that ends before an arrow with an effect has its own arrow before. -/
theorem Reacts.not_atEnd (h : Reacts more stop) (valid : c.Valid) (valid' : d.Valid)
    {x : Declaration}
    (read : Production.rule.read (c.extend more stop) () = .ok x (d.extend more stop) ())
    {on : Step} {c₁ : Cursor}
    (event : (Phrase.production .orEvent).parse Production.read c () = .ok on c₁ ()) :
    ¬ c₁.AtEnd := by
  intro atEnd
  obtain ⟨⟨t, rest, rfl, arrow⟩, c₂, e, d', taken, effect⟩ := h
  have valid₁ := (Phrase.parse_goes Production.read_goes _ valid event).1
  have sign : Brief (Phrase.symbol "->") := .symbol (by decide)
  have steady : (Phrase.production .orEvent).SteadyAt (.token t :: rest) c := arrow.orEvent c valid
  have event' := steady stop
  rw [event] at event'
  have taken' := ((sign.atEnd (.token t :: rest) valid₁ atEnd).2 stop).trans taken
  have whole := rule_of_ruled valid.extend
    (ruled_ok_iff.mpr ⟨on, e, _, c₂, event', taken', effect, rfl⟩)
  obtain ⟨-, rfl, -⟩ := Reply.ok.inj (whole.symm.trans read)
  -- The effect is beyond, but the rule ends before.
  obtain ⟨valid₂, -, before⟩ := Phrase.parse_goes Production.read_goes _ (.inl rfl) taken
  have reaches := (Phrase.parse_goes Production.read_goes _ valid₂ effect).2.1
  exact Cursor.not_beyond_extend valid' (reaches.beyond valid₂ (before rfl).beyond)

/-- Such a rule is the same before any other arrow. -/
theorem Reacts.steady_rule (h : Reacts more stop) (valid : c.Valid) (valid' : d.Valid)
    {x : Declaration}
    (read : Production.rule.read (c.extend more stop) () = .ok x (d.extend more stop) ())
    {t : Token Value} {ns : List (Node Value)} (arrow : t.IsArrow) :
    (Phrase.production .rule).SteadyAt (.token t :: ns) c := by
  have front : (Phrase.production .orEvent <* Phrase.symbol "->").SteadyAt (.token t :: ns) c := by
    refine .seq (.map _ (arrow.orEvent c valid)) fun g e ok => ?_
    obtain ⟨on, event, -⟩ := map_ok_iff.mp ok
    have validE := (Phrase.parse_goes Production.read_goes _ valid event).1
    exact Parse.SteadyAt.terminal validE (h.not_atEnd valid valid' read event) _
  have whole : ruled.SteadyAt (.token t :: ns) c := .seq (.map _ front) fun _ e ok =>
    arrow.orEffect e (Phrase.parse_goes Production.read_goes _ valid ok).1
  exact .production valid (.orElse whole (arrow.extension c valid))

/-- What comes behind does not matter to where a cursor stands. -/
theorem Cursor.extend_congr (same : c.extend more stop = d.extend more stop)
    (more' : List (Node Value)) (stop' : Position) :
    c.extend more' stop' = d.extend more' stop' := by
  obtain ⟨nodes, split, place⟩ := c
  obtain ⟨nodes', split', place'⟩ := d
  simp only [extend, Cursor.mk.injEq, List.append_cancel_right_eq, and_true] at same
  obtain ⟨rfl, rfl⟩ := same
  rfl

/-- What is read before some nodes is read before others, if the nodes do not matter to it. -/
theorem Parse.SteadyAt.carry {α : Type} {p : Parse Unit α} {more' : List (Node Value)} {a : α}
    (h : SteadyAt more p c) (h' : SteadyAt more' p c)
    (read : p (c.extend more stop) () = .ok a (d.extend more stop) ()) :
    p (c.extend more' stop) () = .ok a (d.extend more' stop) () := by
  obtain ⟨e, alone, same⟩ := Reply.extend_eq_ok.mp ((h stop).symm.trans read)
  rw [h' stop, alone, Reply.extend, Cursor.extend_congr same]

/-- A cursor that stands before a node has some nodes behind it. -/
theorem Cursor.Reaches.exists_passed (h : c.Reaches d) (unsplit : d.split = 0) :
    ∃ passed ns, c.nodes = passed ++ ns ∧ d = { nodes := ns, stop := c.stop } := by
  obtain ⟨nodes, split, place⟩ := d
  obtain rfl : split = 0 := unsplit
  obtain rfl : place = c.stop := h.stop_eq
  rcases h with same | ⟨-, ⟨-, less⟩ | ⟨n, passed, front⟩⟩
  · exact ⟨[], nodes, congrArg Cursor.nodes same.symm, rfl⟩
  · exact absurd less (Nat.not_lt_zero _)
  · exact ⟨n :: passed, nodes, front, rfl⟩

theorem Cursor.Before.nodes_eq (h : c.Before d) (unsplit : d.split = 0) :
    ∃ n passed, c.nodes = n :: passed ++ d.nodes := by
  obtain ⟨-, ⟨same, less⟩ | nodes⟩ := h
  · exact absurd (unsplit ▸ less) (Nat.not_lt_zero _)
  · exact nodes

end

/-- A rule with its effect in round brackets. -/
def Rule.bracketed (r : Rule) : Rule := { r with effect := r.effect.bracketed }

/-- The nodes of an effect in round brackets after an arrow. -/
def bracketedNodes (arrow opener closer : Token Value) (effect back : List (Node Value)) :
    List (Node Value) :=
  .token arrow :: .group opener closer effect :: back

section

open Phrase

variable {arrow opener closer : Token Value} {effect back : List (Node Value)} {stop : Position}
  {e : Effect}

/-- A left side ends before any arrow as it does before the one that it has. -/
theorem orEvent_before {t t' : Token Value} (arrow : t.IsArrow) (arrow' : t'.IsArrow)
    {left lines rest rest' : List (Node Value)} {on : Step}
    (read : (Phrase.production .orEvent).parse Production.read
      { nodes := left ++ .token t :: rest, stop } () =
        .ok on { nodes := lines ++ .token t :: rest, stop } ()) :
    (Phrase.production .orEvent).parse Production.read
      { nodes := left ++ .token t' :: rest', stop } () =
        .ok on { nodes := lines ++ .token t' :: rest', stop } () :=
  have valid : Cursor.Valid { nodes := left, stop } := .inl rfl
  (arrow.orEvent _ valid).carry (d := { nodes := lines, stop }) (arrow'.orEvent _ valid) read

/-- Line breaks before an arrow do not matter. -/
theorem arrow_lines {lines ns : List (Node Value)} (all : ∀ n ∈ lines, Node.isLine n) :
    (Phrase.symbol "->").parse Production.read { nodes := lines ++ ns, stop } () =
      (Phrase.symbol "->").parse Production.read { nodes := ns, stop } () :=
  Parse.terminal_lines all _

/-- An effect in brackets is read after the arrow. -/
theorem orEffect_bracketed (symbol : arrow.isSymbol) (text : arrow.text = "->")
    (round : opener.text = Bracket.round.opener) (fresh : Fresh back)
    (alone : ∀ place, Production.orEffect.read { nodes := effect, stop := place } () =
      .ok e { nodes := [], stop := place } ()) (stop : Position) : ∃ c,
      (Phrase.symbol "->").parse Production.read
        { nodes := bracketedNodes arrow opener closer effect back, stop } () = .ok () c () ∧
      (Phrase.production .orEffect).parse Production.read c () =
        .ok e.bracketed { nodes := back, stop } () := by
  have last : arrow.text.toList.drop 0 = "->".toList := by rw [text]; rfl
  refine ⟨_, Parse.symbol_last symbol last, ?_⟩
  rw [parse_production]
  exact orEffect_group round (alone closer.position) rfl fresh

/-- A rule is one with its effect in round brackets, too. -/
theorem rule_bracketed {ns : List (Node Value)} {r : Rule} (fresh : Fresh back)
    (read : Production.rule.read { nodes := ns, stop } () =
      .ok (.rule r) { nodes := back, stop } ()) :
    ∃ left whole effect, ns = left ++ (whole ++ back) ∧ Arrowed whole effect ∧
      (∀ place, Production.orEffect.read { nodes := effect, stop := place } () =
        .ok r.effect { nodes := [], stop := place } ()) ∧
      Reacts (whole ++ back) stop ∧
      ∀ {arrow opener closer : Token Value}, arrow.isSymbol → arrow.text = "->" →
        opener.text = Bracket.round.opener →
        Production.rule.read
          { nodes := left ++ bracketedNodes arrow opener closer effect back, stop } () =
            .ok (.rule r.bracketed) { nodes := back, stop } () := by
  obtain ⟨on, e, c₁, c₂, event, arrow, reads, ⟨⟩⟩ := ruled_ok_iff.mp (ruled_of_rule (.inl rfl) read)
  obtain ⟨-, reaches, -⟩ := Phrase.parse_goes Production.read_goes _ (.inl rfl) event
  have unsplit : c₁.split = 0 := by
    have event := event
    rw [parse_production] at event
    exact Production.orEvent.read_unsplit rfl (.inl rfl) event
  obtain ⟨passed, n₁, nodes, rfl⟩ := reaches.exists_passed unsplit
  obtain ⟨lines, t, rest, effect', rfl, all, isArrow, arrowed, whole⟩ := arrowed_of_read arrow reads
  obtain rfl : ns = passed ++ (lines ++ .token t :: rest) := nodes
  -- The effect takes something, and no more than what comes before the next rule.
  obtain ⟨-, -, before⟩ := Phrase.parse_goes Production.read_goes _ (.inl rfl) whole
  obtain ⟨n, taken, nodes'⟩ := (before rfl).nodes_eq rfl
  obtain rfl : effect' = n :: taken ++ back := nodes'
  obtain ⟨front, cut, arrowed⟩ := arrowed.cut
  have alone (place : Position) :
      Production.orEffect.read { nodes := n :: taken, stop := place } () =
        .ok e { nodes := [], stop := place } () := by
    rw [parse_production] at whole
    exact fresh.orEffect (.inl rfl) (.inl rfl) rfl whole
  rw [arrow_lines all] at arrow
  rw [← List.append_assoc] at event
  refine ⟨passed ++ lines, front, n :: taken, by rw [List.append_assoc, cut], arrowed, alone,
    ⟨⟨t, rest, cut.symm, isArrow⟩, c₂, e, _, cut ▸ arrow, reads⟩,
    fun {arrow' opener closer} symbol text round => ?_⟩
  have isArrow' : arrow'.IsArrow := ⟨symbol, text ▸ List.prefix_refl _⟩
  obtain ⟨c₃, arrow'', reads'⟩ := orEffect_bracketed symbol text round fresh alone stop
  refine rule_of_ruled (.inl rfl) (ruled_ok_iff.mpr ⟨on, e.bracketed, _, c₃,
    orEvent_before isArrow isArrow' event, ?_, reads', rfl⟩)
  rw [arrow_lines all]
  exact arrow''

end

end RuleMachine
