import RuleMachine.Proofs.Terms.Prefixes

/-!
# Effects in round brackets

Effects go on with `&`, `if` and `|` only, and neither a rule nor the end begins so (`Fresh`). So an
effect in round brackets is read as one node, whatever rule comes after it (`orEffect_group`): an
expression in brackets is the expression, but anything else is taken for an action
(`Effect.bracketed`).
-/

namespace RuleMachine

open Plain

/-! ## Where no rule begins -/

theorem Phrase.seq_mismatch {α β : Type} {c : Cursor} {p : Phrase Production (α → β)}
    (none : p.parse Production.read c () = .mismatch ()) (q : Phrase Production α) :
    (Phrase.seq p q).parse Production.read c () = .mismatch () :=
  seq_mismatch_iff.mpr (.inl none)

/-- An expression begins with the sign of a tag and a name, or with an operand. -/
theorem tagExpr_mismatch {c : Cursor} (valid : c.Valid)
    (tag : (Phrase.symbol "#" *> .terminal .name).parse Production.read c () = .mismatch ())
    (operand : (Phrase.production .operand).parse Production.read c () = .mismatch ()) :
    (Phrase.production .tagExpr).parse Production.read c () = .mismatch () := by
  have expr : (Phrase.production .expr).parse Production.read c () = .mismatch () := by
    rw [Phrase.parse_production]
    exact expr_mismatch valid operand
  rw [Phrase.parse_production, Production.tagExpr.read_eq valid]
  exact Phrase.orElse_mismatch_iff.mpr
    ⟨Phrase.seq_mismatch (Phrase.map_mismatch_iff.mpr tag) _, expr⟩

/-- No group, no sign of a tag, no pattern and no operand comes next. -/
structure Cursor.Barren (c : Cursor) : Prop where
  valid : c.Valid
  sign : (Phrase.symbol "#").parse Production.read c () = .mismatch ()
  group {α : Type} (p : Phrase Production α) :
    (Phrase.group .round p).parse Production.read c () = .mismatch ()
  pattern : (Phrase.production .pattern).parse Production.read c () = .mismatch ()
  operand : (Phrase.production .operand).parse Production.read c () = .mismatch ()

namespace Cursor.Barren

open Phrase

variable {c : Cursor}

theorem of_stuck (valid : c.Valid) (stuck : c.Stuck)
    (sign : (Phrase.symbol "#").parse Production.read c () = .mismatch ()) : c.Barren where
  valid := valid
  sign := sign
  group p := (Single.group .round p).stuck valid stuck
  pattern := Single.pattern.stuck valid stuck
  operand := Single.operand.stuck valid stuck

variable (h : c.Barren)
include h

theorem production {α : Type} {n : Production α}
    (none : n.phrase.parse Production.read c () = .mismatch ()) :
    (Phrase.production n).parse Production.read c () = .mismatch () := by
  rw [parse_production, n.read_eq h.valid]
  exact none

theorem tagPattern : (Phrase.production .tagPattern).parse Production.read c () = .mismatch () :=
  h.production (orElse_mismatch_iff.mpr ⟨seq_mismatch (map_mismatch_iff.mpr
    (seq_mismatch (map_mismatch_iff.mpr h.sign) _)) _, h.pattern⟩)

theorem tagExpr : (Phrase.production .tagExpr).parse Production.read c () = .mismatch () :=
  tagExpr_mismatch h.valid (seq_mismatch (map_mismatch_iff.mpr h.sign) _) h.operand

theorem condEvent : (Phrase.production .condEvent).parse Production.read c () = .mismatch () := by
  have state : (Phrase.production .state).parse Production.read c () = .mismatch () :=
    h.production (orElse_mismatch_iff.mpr ⟨h.group _, map_mismatch_iff.mpr h.tagPattern⟩)
  exact h.production (orElse_mismatch_iff.mpr ⟨seq_mismatch (seq_mismatch (map_mismatch_iff.mpr
    (seq_mismatch (map_mismatch_iff.mpr state) _)) _) _, h.group _⟩)

/-- No rule begins there. -/
theorem rule : (Phrase.production .rule).parse Production.read c () = .mismatch () := by
  have orEvent : (Phrase.production .orEvent).parse Production.read c () = .mismatch () :=
    h.production (map_mismatch_iff.mpr (seq_mismatch (map_mismatch_iff.mpr h.condEvent) _))
  exact h.production (orElse_mismatch_iff.mpr
    ⟨seq_mismatch (map_mismatch_iff.mpr (seq_mismatch (map_mismatch_iff.mpr orEvent) _)) _,
      seq_mismatch (map_mismatch_iff.mpr (seq_mismatch (map_mismatch_iff.mpr h.tagExpr) _)) _⟩)

end Cursor.Barren

/-! ## What comes after an effect -/

section

variable {α : Type} {ns rest : List (Node Value)} {text : String} {stop : Position}

/-- Where a symbol is read, a token comes next that begins with it. -/
theorem Parse.symbol_front
    (fits : terminal (.symbol text) { nodes := ns, stop } () ≠ .mismatch ()) :
    ∃ t rest, ns.dropWhile (·.isLine) = .token t :: rest ∧ t.isSymbol ∧
      text.toList <+: t.text.toList := by
  have some : terminal? (Cursor.skipLines { nodes := ns, stop }) (.symbol text) ≠ none :=
    fun none => fits (by rw [terminal, none]; rfl)
  obtain ⟨t, front⟩ : ∃ t, (Cursor.skipLines { nodes := ns, stop }).token? = .some t := by
    rw [← Option.ne_none_iff_exists']
    exact fun none => some (by simp only [terminal?, none]; rfl)
  rw [terminal?_symbol front] at some
  obtain ⟨symbol, starts⟩ := Bool.and_eq_true_iff.mp (ite_ne_right_iff.mp some).1
  obtain ⟨rest, nodes⟩ := Cursor.nodes_of_token? front
  exact ⟨t, rest, nodes, symbol, List.isPrefixOf_iff_prefix.mp starts⟩

theorem Parse.word_front
    (fits : terminal (.word text) { nodes := ns, stop } () ≠ .mismatch ()) :
    ∃ place rest, ns.dropWhile (·.isLine) = .token ⟨.identifier, text, place⟩ :: rest := by
  have some : terminal? (Cursor.skipLines { nodes := ns, stop }) (.word text) ≠ none :=
    fun none => fits (by rw [terminal, none]; rfl)
  rw [terminal?_eq (.inl rfl) rfl, Ne, Option.map_eq_none_iff] at some
  obtain ⟨_, value⟩ := Option.ne_none_iff_exists'.mp some
  obtain ⟨⟨kind, text', place⟩, front, taken⟩ := Option.bind_eq_some_iff.mp value
  obtain ⟨rest, nodes⟩ := Cursor.nodes_of_token? front
  cases kind with
  | identifier =>
    obtain rfl : text' = text := by simpa [Terminal.value?] using taken
    exact ⟨place, rest, nodes⟩
  | line | ignored | punctuation | operator | literal => simp [Terminal.value?] at taken

/-- A symbol other than the sign of a tag comes next. -/
theorem Cursor.Barren.of_symbol {t : Token Value}
    (front : ns.dropWhile (·.isLine) = .token t :: rest) (symbol : t.isSymbol)
    (other : ¬ "#".toList <+: t.text.toList) :
    Barren { nodes := ns, stop } := by
  refine .of_stuck (.inl rfl) (Cursor.stuck_of_symbol front symbol) ?_
  by_contra fits
  obtain ⟨t', rest', front', -, starts⟩ := Parse.symbol_front fits
  obtain ⟨⟨⟩, -⟩ := List.cons.inj (front.symm.trans front')
  exact other starts

/-- A word comes next that names nothing and is no constant. -/
theorem Cursor.Barren.of_word {place : Position}
    (front : ns.dropWhile (·.isLine) = .token ⟨.identifier, text, place⟩ :: rest)
    (word : text ∈ keywords) (other : text ∉ ["true", "false", "null", "undefined"]) :
    Barren { nodes := ns, stop } := by
  have passed {β : Type} {p : Phrase Production β} (passes : p.Passes) :
      p.parse Production.read { nodes := ns, stop } () = p.parse Production.read
        { nodes := .token ⟨.identifier, text, place⟩ :: rest, stop } () := by
    rw [← front]
    exact (Parse.Passes.skipLines passes ns stop).symm
  have blank : text ≠ "_" := by
    rintro rfl
    exact absurd word (by decide)
  simp only [List.mem_cons, List.not_mem_nil, or_false, not_or] at other
  refine ⟨.inl rfl, ?_, fun p => ?_, ?_, ?_⟩
  · rw [passed (p := Phrase.symbol "#") (.terminal _)]
    simp
  · rw [passed (.group _ _)]
    simp
  · rw [passed Single.pattern.passes]
    simp [word, other, blank]
  · rw [passed Single.operand.passes]
    simp [word, other]

end

namespace Fresh

variable {back : List (Node Value)}

theorem of_atEnd (atEnd : ∀ n ∈ back, n.isLine) : Fresh back where
  symbol _ stop := Parse.symbol_lines atEnd _ stop
  word {text} _ stop := by
    have ended : Parse.terminal (.word text) { nodes := back ++ [], stop } () = .mismatch () :=
      (Parse.terminal_lines atEnd (.word text)).trans (Parse.terminal_nil _)
    rwa [List.append_nil] at ended

/-- What a rule begins with. -/
theorem of_rule {stop : Position} {r : Declaration} {d : Cursor}
    (read : Production.rule.read { nodes := back, stop } () = .ok r d ()) : Fresh back := by
  have fertile : ¬ Cursor.Barren { nodes := back, stop } := fun barren => by
    have none := barren.rule
    rw [Phrase.parse_production, read] at none
    cases none
  refine ⟨fun {text} other place => ?_, fun {text} mem place => ?_⟩
  · by_contra fits
    obtain ⟨t, rest, front, symbol, starts⟩ := Parse.symbol_front fits
    refine fertile (.of_symbol front symbol fun sign => other ?_)
    cases chars : text.toList with
    | nil => simp
    | cons c cs =>
      obtain ⟨ds, same⟩ := sign
      rw [chars, ← same] at starts
      have hash : c = '#' := (List.cons_prefix_cons.mp starts).1
      simp [hash]
  · by_contra fits
    obtain ⟨at', rest, front⟩ := Parse.word_front fits
    have words : ∀ text ∈ ["if", "in", "not", "is", "dispatch", "await", "exec"],
        text ∈ keywords ∧ text ∉ ["true", "false", "null", "undefined"] := by decide
    exact fertile (.of_word front (words text mem).1 (words text mem).2)

theorem stops (fresh : Fresh back) : Stops 0 back := by
  intro op stop _
  exact fresh.symbol (by cases op <;> decide) stop

end Fresh

/-! ## An effect of one node -/

theorem Phrase.many_ok_iff {α : Type} {p : Phrase Production α} {c d : Cursor} {as : List α}
    (consumes : p.consumes) (valid : c.Valid) :
    (Phrase.many p).parse Production.read c () = .ok as d () ↔
      (∃ a e rest, p.parse Production.read c () = .ok a e () ∧
        (Phrase.many p).parse Production.read e () = .ok rest d () ∧ a :: rest = as) ∨
      p.parse Production.read c () = .mismatch () ∧ [] = as ∧ c = d := by
  rw [parse_many consumes valid]
  constructor
  · intro ok
    rcases Parse.either_ok ok with taken | ⟨_, none, ⟨⟩⟩
    · obtain ⟨a, e, _, first, second⟩ := Parse.andThen_ok taken
      obtain ⟨rest, _, _, others, ⟨⟩⟩ := Parse.andThen_ok second
      exact .inl ⟨a, e, rest, first, others, rfl⟩
    · exact .inr ⟨none, rfl, rfl⟩
  · rintro (⟨a, e, rest, first, others, rfl⟩ | ⟨none, rfl, rfl⟩)
    · simp only [Parse.either, first, Parse.andThen, others]
    · simp only [Parse.either, none]

/-- No action, guard or alternative is added to an effect that ends here. -/
structure Cursor.Spent (d : Cursor) : Prop where
  valid : d.Valid
  joined : (Phrase.symbol "&").parse Production.read d () = .mismatch ()
  guard : (Phrase.word "if").parse Production.read d () = .mismatch ()
  bar : (Phrase.symbol "|").parse Production.read d () = .mismatch ()

namespace Cursor.Spent

open Phrase

variable {c d : Cursor}

theorem of_fresh {back : List (Node Value)} (fresh : Fresh back) (stop : Position) :
    Spent { nodes := back, stop } where
  valid := .inl rfl
  joined := fresh.symbol (by decide) stop
  guard := fresh.word (by decide) stop
  bar := fresh.symbol (by decide) stop

theorem of_atEnd (valid : d.Valid) (atEnd : d.AtEnd) : Spent d := by
  obtain ⟨nodes, split, place⟩ := d
  obtain rfl : split = 0 := atEnd.split_eq_zero valid
  exact of_fresh (.of_atEnd (List.dropWhile_eq_nil_iff.mp atEnd)) place

variable (h : d.Spent)
include h

theorem joinedActions :
    (Phrase.many (.production .joinedAction)).parse Production.read d () = .ok [] d () := by
  have none : (Phrase.production .joinedAction).parse Production.read d () = .mismatch () := by
    rw [parse_production, Production.joinedAction.read_eq h.valid]
    exact seq_mismatch (map_mismatch_iff.mpr h.joined) _
  exact (many_ok_iff rfl h.valid).mpr (.inr ⟨none, rfl, rfl⟩)

/-- What is read up to there is the whole effect. -/
theorem orEffect {e : Effect} (valid : c.Valid)
    (read : Production.andEffect.phrase.parse Production.read c () = .ok e d ()) :
    Production.orEffect.read c () = .ok e d () := by
  have guard : (Phrase.optional (.word "if" *> .production .cond)).parse Production.read d () =
      .ok none d () :=
    optional_ok_iff.mpr (.inr ⟨seq_mismatch (map_mismatch_iff.mpr h.guard) _, rfl, rfl⟩)
  have others : (Phrase.many (.symbol "|" *> .production .condEffect)).parse Production.read d () =
      .ok [] d () :=
    (many_ok_iff rfl h.valid).mpr
      (.inr ⟨seq_mismatch (map_mismatch_iff.mpr h.bar) _, rfl, rfl⟩)
  have andEffect : (Phrase.production .andEffect).parse Production.read c () = .ok e d () := by
    rw [parse_production, Production.andEffect.read_eq valid]
    exact read
  have condEffect : (Phrase.production .condEffect).parse Production.read c () = .ok e d () := by
    rw [parse_production, Production.condEffect.read_eq valid]
    exact seq_ok_iff.mpr ⟨_, d, none, map_ok_iff.mpr ⟨e, andEffect, rfl⟩, guard, rfl⟩
  rw [Production.orEffect.read_eq valid]
  exact map_ok_iff.mpr ⟨(e, []), seq_ok_iff.mpr
    ⟨_, d, [], map_ok_iff.mpr ⟨e, condEffect, rfl⟩, others, rfl⟩, rfl⟩

theorem orEffect_of_tagExpr {x : Expr} (valid : c.Valid)
    (read : (Phrase.production .tagExpr).parse Production.read c () = .ok x d ()) :
    Production.orEffect.read c () = .ok (.next x []) d () :=
  h.orEffect valid (orElse_ok_iff.mpr (.inl (seq_ok_iff.mpr
    ⟨_, d, [], map_ok_iff.mpr ⟨x, read, rfl⟩, h.joinedActions, rfl⟩)))

theorem orEffect_of_action {a : Action} (valid : c.Valid)
    (none : (Phrase.production .tagExpr).parse Production.read c () = .mismatch ())
    (read : (Phrase.production .action).parse Production.read c () = .ok a d ()) :
    Production.orEffect.read c () = .ok (.only [a]) d () :=
  h.orEffect valid (orElse_ok_iff.mpr (.inr ⟨seq_mismatch (map_mismatch_iff.mpr none) _,
    seq_ok_iff.mpr ⟨_, d, [], map_ok_iff.mpr ⟨a, read, rfl⟩, h.joinedActions, rfl⟩⟩))

end Cursor.Spent

/-- Where a repetition has no items nothing is read. -/
theorem Phrase.many_nil {α : Type} {p : Phrase Production α} {c d : Cursor} (consumes : p.consumes)
    (valid : c.Valid) (ok : (Phrase.many p).parse Production.read c () = .ok [] d ()) : c = d := by
  rcases (many_ok_iff consumes valid).mp ok with ⟨_, _, _, -, -, ⟨⟩⟩ | ⟨-, -, same⟩
  exact same

section

open Phrase

variable {c d : Cursor} {x : Expr}

theorem condEffect_of_orEffect (valid : c.Valid)
    (read : Production.orEffect.read c () = .ok (.next x []) d ()) :
    (Phrase.production .condEffect).parse Production.read c () = .ok (.next x []) d () := by
  rw [Production.orEffect.read_eq valid] at read
  obtain ⟨⟨head, tail⟩, whole, same⟩ := map_ok_iff.mp read
  obtain ⟨g, e, tail', first, others, pair⟩ := seq_ok_iff.mp whole
  obtain ⟨head', taken, rfl⟩ := map_ok_iff.mp first
  obtain ⟨rfl, rfl⟩ := Prod.mk.inj pair
  cases tail' with
  | nil =>
    obtain rfl : head' = .next x [] := same
    have valid' := (Phrase.parse_goes Production.read_goes _ valid taken).1
    obtain rfl := many_nil rfl valid' others
    exact taken
  | cons => cases same

theorem andEffect_of_condEffect (valid : c.Valid)
    (read : (Phrase.production .condEffect).parse Production.read c () = .ok (.next x []) d ()) :
    (Phrase.production .andEffect).parse Production.read c () = .ok (.next x []) d () := by
  rw [parse_production, Production.condEffect.read_eq valid] at read
  obtain ⟨g, e, guard, first, second, same⟩ := seq_ok_iff.mp read
  obtain ⟨effect, taken, rfl⟩ := map_ok_iff.mp first
  rcases optional_ok_iff.mp second with ⟨cond, -, rfl⟩ | ⟨-, rfl, rfl⟩
  · cases same
  · obtain rfl : effect = .next x [] := same
    exact taken

/-- An effect that is a next state alone is an expression. -/
theorem tagExpr_of_orEffect (valid : c.Valid)
    (read : Production.orEffect.read c () = .ok (.next x []) d ()) :
    (Phrase.production .tagExpr).parse Production.read c () = .ok x d () := by
  have read := andEffect_of_condEffect valid (condEffect_of_orEffect valid read)
  rw [parse_production, Production.andEffect.read_eq valid] at read
  rcases orElse_ok_iff.mp read with whole | ⟨-, whole⟩
  · obtain ⟨g, e, actions, first, others, same⟩ := seq_ok_iff.mp whole
    obtain ⟨y, taken, rfl⟩ := map_ok_iff.mp first
    obtain ⟨rfl, rfl⟩ := Effect.next.inj same
    have valid' := (Phrase.parse_goes Production.read_goes _ valid taken).1
    obtain rfl := many_nil rfl valid' others
    exact taken
  · obtain ⟨g, e, actions, first, -, same⟩ := seq_ok_iff.mp whole
    obtain ⟨a, -, rfl⟩ := map_ok_iff.mp first
    cases same

end

/-- An effect in round brackets: an expression alone is one still, anything else is an action. -/
def Effect.bracketed : Effect → Effect
  | .next x [] => .next x []
  | e => .only [.nested e]

section

open Phrase

variable {opener closer : Token Value} {effect ns back : List (Node Value)} {stop : Position}
  {x : Expr} {e : Effect} {d : Cursor} (round : opener.text = Bracket.round.opener)
include round

/-- An expression in round brackets is one, wherever no operator comes after it. -/
theorem tagExpr_group
    (inside : (Phrase.production .tagExpr).parse Production.read
      { nodes := effect, stop := closer.position } () = .ok x d ())
    (atEnd : d.AtEnd) (stops : Stops 0 ns) :
    (Phrase.production .tagExpr).parse Production.read
      { nodes := .group opener closer effect :: ns, stop } () = .ok x { nodes := ns, stop } () := by
  have whole (rest : List (Node Value)) (place : Position) :
      (Phrase.group .round (.production .tagExpr)).parse Production.read
        { nodes := .group opener closer effect :: rest, stop := place } () =
          .ok x { nodes := rest, stop := place } () := by
    have atEnd : d.skipLines.nodes = [] := atEnd
    rw [parse_production] at inside
    simp [Parse.group, Parse.finish, round, inside, atEnd]
  have operand : Reads .operand 3 [.group opener closer effect] x := by
    refine ⟨⟨_, _, rfl, rfl⟩, fun rest place _ => ?_⟩
    rw [List.singleton_append, Production.read_cons]
    exact orElse_ok_iff.mpr (.inl (whole rest place))
  rw [parse_production]
  exact (reads_tagExpr (ReadsAt.of_operand operand 0).reads).reads ns stop stops

/-- Anything else in round brackets is no expression. -/
theorem tagExpr_group_mismatch
    (other : ∀ x d, (Phrase.production .tagExpr).parse Production.read
      { nodes := effect, stop := closer.position } () = .ok x d () → ¬ d.AtEnd) :
    (Phrase.production .tagExpr).parse Production.read
      { nodes := .group opener closer effect :: ns, stop } () = .mismatch () := by
  have lasts := Production.tagExpr.read_lasts
    (c := { nodes := effect, stop := closer.position }) (.inl rfl) ()
  have harmless := Production.tagExpr.read_not_fatal rfl
    { nodes := effect, stop := closer.position } ()
  have whole : (Phrase.group .round (.production .tagExpr)).parse Production.read
      { nodes := .group opener closer effect :: ns, stop } () = .mismatch () := by
    rw [parse_production] at other
    cases reply : Production.tagExpr.read { nodes := effect, stop := closer.position } () with
    | ok x d f =>
      cases f
      have open' : d.skipLines.nodes ≠ [] := other x d reply
      simp [Parse.group, Parse.finish, round, reply, open']
    | mismatch => simp [Parse.group, round, reply]
    | fatal e => exact absurd reply (harmless e)
    | exhausted => exact absurd reply lasts
  have noToken {α : Type} (y : Terminal α) : Parse.terminal y
      { nodes := .group opener closer effect :: ns, stop } () = .mismatch () := by
    cases y <;> rfl
  have operand : (Phrase.production .operand).parse Production.read
      { nodes := .group opener closer effect :: ns, stop } () = .mismatch () := by
    rw [parse_production, Production.read_cons]
    refine orElse_mismatch_iff.mpr ⟨whole, ?_⟩
    simp [Parse.group, round, Bracket.opener, noToken]
  have sign : (Phrase.symbol "#").parse Production.read
      { nodes := .group opener closer effect :: ns, stop } () = .mismatch () := noToken _
  exact tagExpr_mismatch (.inl rfl) (seq_mismatch (map_mismatch_iff.mpr sign) _) operand

/-- The group is read as a whole, and nothing is added to it. -/
theorem orEffect_group
    (inside : Production.orEffect.read { nodes := effect, stop := closer.position } () = .ok e d ())
    (atEnd : d.AtEnd) (fresh : Fresh back) :
    Production.orEffect.read { nodes := .group opener closer effect :: back, stop } () =
      .ok e.bracketed { nodes := back, stop } () := by
  have spent := Cursor.Spent.of_fresh fresh stop
  by_cases alone : ∃ x d, (Phrase.production .tagExpr).parse Production.read
      { nodes := effect, stop := closer.position } () = .ok x d () ∧ d.AtEnd
  · obtain ⟨x, d', read, atEnd'⟩ := alone
    have valid' := (Phrase.parse_goes Production.read_goes _ (.inl rfl) read).1
    have same := (Cursor.Spent.of_atEnd valid' atEnd').orEffect_of_tagExpr (.inl rfl) read
    obtain ⟨rfl, -⟩ := Reply.ok.inj (inside.symm.trans same)
    exact spent.orEffect_of_tagExpr (.inl rfl) (tagExpr_group round read atEnd' fresh.stops)
  · have other : e.bracketed = .only [.nested e] := by
      unfold Effect.bracketed
      split
      · exact absurd ⟨_, d, tagExpr_of_orEffect (.inl rfl) inside, atEnd⟩ alone
      · rfl
    rw [other]
    refine spent.orEffect_of_action (.inl rfl) (tagExpr_group_mismatch round fun x d' read atEnd' =>
      alone ⟨x, d', read, atEnd'⟩) ?_
    have atEnd : d.skipLines.nodes = [] := atEnd
    rw [parse_production, Production.read_cons]
    refine orElse_ok_iff.mpr (.inl (map_ok_iff.mpr ⟨e, ?_, rfl⟩))
    simp [Parse.group, Parse.finish, round, inside, atEnd]

end

end RuleMachine
