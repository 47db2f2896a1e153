import RuleMachine.Proofs.Grouping
import RuleMachine.Proofs.Terms.Guards

/-!
# Alternatives as they are written

Alternatives are written with bars between them, and alternatives in round brackets are one
alternative (`Barred`): so it is on the left of a rule, in the pattern of a state and in a
condition. With brackets around the first two or the last two of three alternatives the program
says something else, but it does the same (`Nest`).
-/

namespace RuleMachine

open Plain

/-- The end comes next, or one of the symbols. -/
def Before (symbols : List String) (ns : List (Node Value)) : Prop :=
  ns = [] ∨ ∃ text ∈ symbols, ∃ place rest, ns = .token ⟨.operator, text, place⟩ :: rest

/-- What may come after an alternative. -/
def breaks : List String := ["|", "->"]

/-- What may come after alternatives. -/
def arrows : List String := ["->"]

/-- The nodes are read as `a`, up to line breaks at their end, wherever one of the symbols or the
end comes after them. -/
def Production.Stands {α : Type} (n : Production α) (after : List String)
    (ns : List (Node Value)) (a : α) : Prop :=
  ∀ more, Before after more → ∀ stop, ∃ lines, (∀ n ∈ lines, Node.isLine n) ∧
    n.read { nodes := ns ++ more, stop } () = .ok a { nodes := lines ++ more, stop } ()

/-- The token between alternatives. -/
def bar (place : Position) : Node Value := .token ⟨.operator, "|", place⟩

/-- The alternatives after the first. -/
def others {α : Type} (item : Production α) : Phrase Production (List α) :=
  .many (.symbol "|" *> .production item)

/-- Nodes that are read as alternatives after the first. -/
inductive Follow {α : Type} (item : Production α) : List (Node Value) → List α → Prop
  | nil : Follow item [] []
  | cons {A ns : List (Node Value)} {a : α} {as : List α} (p : Position) :
      item.Stands breaks A a → Follow item ns as → Follow item (bar p :: (A ++ ns)) (a :: as)

/-- A production of alternatives with bars between them, of which alternatives in round brackets
are one. -/
structure Barred {α : Type} (list item : Production α) (combine : List α → α) : Prop where
  phrase : list.phrase =
    Production.combined combine <$> .separatedBy "|" (.production item)
  grouped {opener closer : Token Value} {inside more : List (Node Value)} {stop : Position}
      {a : α} :
    Parse.group .round list.read { nodes := .group opener closer inside :: more, stop } () =
      .ok a { nodes := more, stop } () →
    Before breaks more →
    item.read { nodes := .group opener closer inside :: more, stop } () =
      .ok a { nodes := more, stop } ()

section

variable {α : Type} {list item : Production α} {combine : List α → α}
  {A B C ns more lines : List (Node Value)} {a b c : α} {as : List α} {p q stop : Position}

theorem Before.mismatch {symbols : List String} (h : Before symbols more) {text : String}
    (other : ∀ symbol ∈ symbols, ¬ text.toList <+: symbol.toList) :
    Parse.terminal (.symbol text) { nodes := more, stop } () = .mismatch () := by
  obtain rfl | ⟨symbol, mem, place, rest, rfl⟩ := h
  · exact Parse.terminal_nil _
  · simp [other symbol mem]

theorem Before.weaken (h : Before arrows more) : Before breaks more := by
  obtain rfl | ⟨text, mem, place, rest, rfl⟩ := h
  · exact .inl rfl
  · exact .inr ⟨text, List.mem_cons_of_mem _ mem, place, rest, rfl⟩

theorem before_arrow : Before arrows (.token ⟨.operator, "->", p⟩ :: more) :=
  .inr ⟨"->", by decide, p, more, rfl⟩

namespace Follow

theorem before (h : Follow item ns as) (ends : Before arrows more) :
    Before breaks (ns ++ more) := by
  cases h with
  | nil => exact ends.weaken
  | cons p _ _ => exact .inr ⟨"|", by decide, p, _, rfl⟩

/-- The alternatives are read up to an arrow or the end, whatever line breaks come before them. -/
theorem parse (h : Follow item ns as) (all : ∀ n ∈ lines, Node.isLine n)
    (ends : Before arrows more) (stop : Position) : ∃ left, (∀ n ∈ left, Node.isLine n) ∧
      (others item).parse Production.read { nodes := lines ++ (ns ++ more), stop } () =
        .ok as { nodes := left ++ more, stop } () := by
  induction h generalizing lines with
  | nil =>
    have none : Parse.terminal (.symbol "|") { nodes := lines ++ more, stop } () = .mismatch () :=
      (Parse.terminal_lines all (.symbol "|")).trans (ends.mismatch (by decide))
    refine ⟨lines, all, ?_⟩
    rw [List.nil_append, others, Phrase.parse_many rfl (.inl rfl)]
    simp [none]
  | @cons A ns a as p first rest ih =>
    obtain ⟨between, breaks, here⟩ := first (ns ++ more) (rest.before ends) stop
    obtain ⟨left, only, tail⟩ := ih breaks
    refine ⟨left, only, ?_⟩
    have one : (Phrase.symbol "|" *> .production item).parse Production.read
        { nodes := lines ++ bar p :: (A ++ (ns ++ more)), stop } () =
          .ok a { nodes := between ++ (ns ++ more), stop } () := by
      have symbol : Parse.terminal (.symbol "|")
          { nodes := lines ++ bar p :: (A ++ (ns ++ more)), stop } () =
            .ok () { nodes := A ++ (ns ++ more), stop } () :=
        (Parse.terminal_lines all (.symbol "|")).trans (by simp [bar])
      simp [symbol, here]
    rw [others] at tail ⊢
    rw [List.cons_append, List.append_assoc, Phrase.parse_many rfl (.inl rfl)]
    simp only [Parse.either, one, Parse.andThen, tail]

end Follow

namespace Barred

variable (h : Barred list item combine)
include h

theorem stands (first : item.Stands breaks A a) (rest : Follow item ns as) :
    list.Stands arrows (A ++ ns) (Production.combined combine (a, as)) := by
  intro more ends stop
  obtain ⟨between, breaks, here⟩ := first (ns ++ more) (rest.before ends) stop
  obtain ⟨left, only, tail⟩ := rest.parse breaks ends stop
  refine ⟨left, only, ?_⟩
  rw [others] at tail
  rw [List.append_assoc, list.read_eq (.inl rfl), h.phrase]
  simp only [Phrase.separatedBy, Phrase.map_eq, Phrase.seq_eq, Phrase.parse_seq,
    Phrase.parse_pure, Phrase.parse_production, Parse.andThen, here, tail]

end Barred

/-- What stands by itself is the inside of a group. -/
theorem Production.Stands.group {n : Production α} (h : n.Stands arrows A a)
    {opener closer : Token Value} (round : opener.text = Bracket.round.opener) :
    Parse.group .round n.read { nodes := .group opener closer A :: more, stop } () =
      .ok a { nodes := more, stop } () := by
  obtain ⟨lines, all, inside⟩ := h [] (.inl rfl) closer.position
  rw [List.append_nil, List.append_nil] at inside
  have ended : (Cursor.skipLines { nodes := lines, stop := closer.position }).nodes = [] :=
    List.dropWhile_eq_nil_iff.mpr all
  simp [Parse.group, Parse.andThen, Parse.finish, round, inside, Cursor.next, ended]

/-- A group of alternatives is an alternative. -/
theorem Barred.group (h : Barred list item combine) (alternatives : list.Stands arrows A a)
    {opener closer : Token Value} (round : opener.text = Bracket.round.opener) :
    item.Stands breaks [.group opener closer A] a := by
  intro more ends stop
  exact ⟨[], nofun, h.grouped (alternatives.group round) ends⟩

end

/-! ## Where alternatives are written -/

theorem cond_group {opener closer : Token Value} {inside more : List (Node Value)}
    {stop : Position} {c : Cond} {d : Cursor}
    (group : Parse.group .round Production.orCond.read
      { nodes := .group opener closer inside :: more, stop } () = .ok c d ()) :
    Production.cond.read { nodes := .group opener closer inside :: more, stop } () =
      .ok c d () := by
  rw [cond_eq (.inl rfl), Parse.either]
  simp only [nodeCond, Phrase.orElse, Phrase.parse_choose, Phrase.parse_group,
    Phrase.parse_production, Parse.either, group]
  rfl

theorem barred_cond : Barred .orCond .andCond .any where
  phrase := rfl
  grouped group ends :=
    andCond_of_cond (.inl rfl) (cond_group group) (ends.mismatch (by decide))

section

variable {more : List (Node Value)}

theorem Before.bars (h : Before breaks more) : Bars more := by
  obtain rfl | ⟨text, mem, place, rest, rfl⟩ := h
  · exact .nil
  · simp only [breaks, List.mem_cons, List.not_mem_nil, or_false] at mem
    rcases mem with rfl | rfl <;> exact .of_operator (by decide)

theorem Before.comparison (h : Before breaks more) (stop : Position) :
    Production.comparison.read { nodes := more, stop } () = .mismatch () := by
  obtain rfl | ⟨text, mem, place, rest, rfl⟩ := h
  · simp
  · simp only [breaks, List.mem_cons, List.not_mem_nil, or_false] at mem
    rcases mem with rfl | rfl <;> simp

/-- Nodes that are a condition are one of several alternatives. -/
theorem andCond_stands {ns : List (Node Value)} {c : Cond}
    (h : Production.cond.Stands breaks ns c) : Production.andCond.Stands breaks ns c := by
  intro more ends stop
  obtain ⟨lines, all, read⟩ := h more ends stop
  have both : Parse.terminal (.symbol "&") { nodes := lines ++ more, stop } () = .mismatch () :=
    (Parse.terminal_lines all (.symbol "&")).trans (ends.mismatch (by decide))
  exact ⟨lines, all, andCond_of_cond (.inl rfl) read both⟩

/-- An expression that does not begin with a condition is one. -/
theorem ReadsAlone.cond_stands {l : List (Node Value)} {x : Expr} (hl : ReadsAlone l x)
    (whole : ¬ Overtaken l) : Production.cond.Stands breaks l (.truthy x) :=
  fun _ ends stop => cond_truthy hl stop ends.bars whole (ends.comparison stop)

/-- A state and an event are one of several alternatives. -/
theorem condEvent_stands {ns ms : List (Node Value)} {state event : Step}
    (first : Production.state.Stands ["@"] ns state)
    (second : Production.event.Stands breaks ms event) (place : Position) :
    Production.condEvent.Stands breaks (ns ++ .token ⟨.operator, "@", place⟩ :: ms)
      (.sequence [state, event]) := by
  intro more ends stop
  let rest : List (Node Value) := .token ⟨.operator, "@", place⟩ :: (ms ++ more)
  have follows : Before ["@"] rest := .inr ⟨"@", .head _, place, _, rfl⟩
  obtain ⟨lines, all, left⟩ := first rest follows stop
  obtain ⟨lines', all', right⟩ := second more ends stop
  have symbol : Parse.terminal (.symbol "@") { nodes := lines ++ rest, stop } () =
      .ok () { nodes := ms ++ more, stop } () :=
    (Parse.terminal_lines all (.symbol "@")).trans (by simp [rest])
  have none : Parse.terminal (.word "if") { nodes := lines' ++ more, stop } () = .mismatch () := by
    rw [Parse.terminal_lines all']
    obtain rfl | ⟨text, mem, place, others, rfl⟩ := ends
    · simp
    · simp
  refine ⟨lines', all', ?_⟩
  rw [List.append_assoc, List.cons_append, Production.condEvent.read_eq (.inl rfl)]
  simp [left, symbol, right, none, rest, -Production.read_cons]

end

/-- A pattern is an event. -/
theorem event_stands {after : List String} {ns : List (Node Value)} {p : Pattern}
    (h : Production.tagPattern.Stands after ns p) :
    Production.event.Stands after ns (.event p) := by
  intro more ends stop
  obtain ⟨lines, all, read⟩ := h more ends stop
  refine ⟨lines, all, ?_⟩
  rw [Production.event.read_eq (.inl rfl)]
  simp [read]

section

variable {after : List String} (x : Identifier) (bound : x.text ≠ "_") (place : Position)
include bound

/-- A name alone is a pattern. -/
theorem tagPattern_identifier : Production.tagPattern.Stands after
    [.token ⟨.identifier, x.text, place⟩] (.bind x.text) := by
  intro more _ stop
  refine ⟨[], nofun, ?_⟩
  simp (disch := first | decide | simp) [x.ne, x.free, bound]

theorem state_identifier : Production.state.Stands after
    [.token ⟨.identifier, x.text, place⟩] (.state (.bind x.text)) := by
  intro more ends stop
  obtain ⟨lines, all, read⟩ := tagPattern_identifier x bound place more ends stop
  rw [List.singleton_append] at read
  refine ⟨lines, all, ?_⟩
  rw [List.singleton_append, Production.state.read_eq (.inl rfl)]
  simp [read, -Production.read_cons]

end

theorem state_group {opener closer : Token Value} {inside more : List (Node Value)}
    {stop : Position} {t : Step} {d : Cursor}
    (group : Parse.group .round Production.orState.read
      { nodes := .group opener closer inside :: more, stop } () = .ok t d ()) :
    Production.state.read { nodes := .group opener closer inside :: more, stop } () =
      .ok t d () := by
  rw [Production.read_cons]
  simp only [Production.phrase, Phrase.oneOf, Phrase.orElse, Phrase.parse_choose,
    Phrase.parse_group, Phrase.parse_production, Parse.either, group]
  rfl

theorem andState_of_state {c d : Cursor} (valid : c.Valid) {t : Step}
    (read : Production.state.read c () = .ok t d ())
    (both : Parse.terminal (.symbol "&") d () = .mismatch ()) :
    Production.andState.read c () = .ok t d () := by
  have valid' := (Production.state.read_goes valid read).1
  rw [Production.read_eq _ valid]
  simp (disch := first | decide | assumption) [read, both, Production.combined]

theorem barred_state : Barred .orState .andState .alternatives where
  phrase := rfl
  grouped group ends :=
    andState_of_state (.inl rfl) (state_group group) (ends.mismatch (by decide))

/-- What a state is matched with takes no more than a group, if there is one in front. -/
theorem state_of_group (opener closer : Token Value) (inside more : List (Node Value))
    (stop : Position) :
    Production.state.read { nodes := .group opener closer inside :: more, stop } () = .mismatch () ∨
      ∃ t, Production.state.read { nodes := .group opener closer inside :: more, stop } () =
        .ok t { nodes := more, stop } () := by
  let c : Cursor := { nodes := .group opener closer inside :: more, stop }
  -- With a group in front a tagged pattern is no possibility, and all others take one node.
  let node : Phrase Production Step :=
    .orElse (.group .round (.production .orState)) (Step.state <$> .production .pattern)
  have single : Single node :=
    .orElse (.group _ _) (.map _ (.production (.orElse (.map _ (.group _ _))
      (.orElse (.map _ (.group _ _)) (.orElse (.group _ _) (.orElse (.constant _ _)
        (.orElse (.map _ .literal) (.map _ (.terminal rfl)))))))))
  have untagged (f : Unit) : Production.tagPattern.read c f = Production.pattern.read c f := by
    have none : Parse.terminal (.symbol "#") c f = .mismatch f := rfl
    rw [Production.tagPattern.read_eq (.inl rfl)]
    simp [none, -Production.read_cons]
  have same : Production.state.read c () = node.parse Production.read c () := by
    rw [Production.state.read_eq (.inl rfl)]
    simp [node, untagged]
  have lasts := Production.state.read_lasts (c := c) (.inl rfl) ()
  have harmless := Production.state_not_fatal c ()
  cases reply : Production.state.read c () with
  | ok t d =>
    obtain rfl := single.next (.inl rfl) (same.symm.trans reply)
    exact .inr ⟨t, rfl⟩
  | mismatch => exact .inl rfl
  | fatal e => exact absurd reply (harmless e)
  | exhausted => exact absurd reply lasts

theorem barred_event : Barred .orEvent .condEvent .alternatives where
  phrase := rfl
  grouped {opener closer inside more stop a} group ends := by
    have none : Parse.terminal (.symbol "@") { nodes := more, stop } () = .mismatch () :=
      ends.mismatch (by decide)
    rw [Production.condEvent.read_eq (.inl rfl)]
    obtain state | ⟨t, state⟩ := state_of_group opener closer inside more stop
    · simp [state, group, -Production.read_cons]
    · simp [state, none, group, -Production.read_cons]

/-! ## Brackets around some of three alternatives -/

/-- Brackets around none of three alternatives, around the first two or around the last two. -/
inductive Nest where
  | flat
  | front
  | back

namespace Nest

/-- The alternatives as they are written. -/
def nodes (A B C : List (Node Value)) (p q : Position) (opener closer : Token Value) :
    Nest → List (Node Value)
  | flat => A ++ bar p :: (B ++ bar q :: C)
  | front => .group opener closer (A ++ bar p :: B) :: bar q :: C
  | back => A ++ [bar p, .group opener closer (B ++ bar q :: C)]

/-- What the program says. -/
def combine {α : Type} (combine : List α → α) (a b c : α) : Nest → α
  | flat => combine [a, b, c]
  | front => combine [combine [a, b], c]
  | back => combine [a, combine [b, c]]

variable [Regex.Engine] {σ : Type} (call : HostFn → Scope → Run σ Value) (nest : Nest)

theorem run (state event : Value) (a b c : Step) (s : Scope) :
    (nest.combine .alternatives a b c).run call state event s =
      (Step.alternatives [a, b, c]).run call state event s := by
  cases nest with
  | flat => rfl
  | front => exact Step.run_alternatives call state event [] [a, b] [c] s
  | back => exact Step.run_alternatives call state event [a] [b, c] [] s

theorem test (a b c : Cond) (s : Scope) :
    (nest.combine .any a b c).test call s = (Cond.any [a, b, c]).test call s := by
  cases nest with
  | flat => rfl
  | front => exact Cond.test_any call s [] [a, b] [c]
  | back => exact Cond.test_any call s [a] [b, c] []

end Nest

section

variable {A B C more : List (Node Value)} {opener closer : Token Value}
  (round : opener.text = Bracket.round.opener) (p q stop : Position) (nest : Nest)
include round

theorem Barred.stands_nest {α : Type} {list item : Production α} {combine : List α → α}
    {a b c : α} (h : Barred list item combine) (first : item.Stands breaks A a)
    (second : item.Stands breaks B b) (third : item.Stands breaks C c) :
    list.Stands arrows (nest.nodes A B C p q opener closer) (nest.combine combine a b c) := by
  have two {A B : List (Node Value)} {a b : α} (p : Position) (first : item.Stands breaks A a)
      (second : item.Stands breaks B b) :
      list.Stands arrows (A ++ bar p :: B) (combine [a, b]) := by
    have both := h.stands first (.cons p second .nil)
    rw [List.append_nil] at both
    exact both
  cases nest with
  | flat =>
    have three := h.stands first (.cons p second (.cons q third .nil))
    rw [List.append_nil] at three
    exact three
  | front => exact two (A := [_]) q (h.group (two p first second) round) third
  | back => exact two p first (h.group (two q second third) round)

theorem rule_nest {a b c : Step} (first : Production.condEvent.Stands breaks A a)
    (second : Production.condEvent.Stands breaks B b)
    (third : Production.condEvent.Stands breaks C c) (r : Position) {e : Effect} {d : Cursor}
    (effect : Production.orEffect.read { nodes := more, stop } () = .ok e d ()) :
    Production.rule.read
        { nodes := nest.nodes A B C p q opener closer ++ .token ⟨.operator, "->", r⟩ :: more, stop }
        () =
      .ok (.rule ⟨nest.combine .alternatives a b c, e⟩) d () := by
  have left : Production.orEvent.Stands arrows (nest.nodes A B C p q opener closer)
      (nest.combine .alternatives a b c) :=
    barred_event.stands_nest round p q nest first second third
  obtain ⟨lines, all, on⟩ := left (.token ⟨.operator, "->", r⟩ :: more) before_arrow stop
  have arrow : Parse.terminal (.symbol "->")
      { nodes := lines ++ .token ⟨.operator, "->", r⟩ :: more, stop } () =
        .ok () { nodes := more, stop } () :=
    (Parse.terminal_lines all (.symbol "->")).trans (by simp)
  rw [Production.rule.read_eq (.inl rfl)]
  simp [on, arrow, effect, -Production.read_cons]

theorem state_nest {a b c : Step} (first : Production.andState.Stands breaks A a)
    (second : Production.andState.Stands breaks B b)
    (third : Production.andState.Stands breaks C c) :
    Production.state.read
        { nodes := .group opener closer (nest.nodes A B C p q opener closer) :: more, stop } () =
      .ok (nest.combine .alternatives a b c) { nodes := more, stop } () :=
  state_group ((barred_state.stands_nest round p q nest first second third).group round)

theorem cond_nest {a b c : Cond} (first : Production.andCond.Stands breaks A a)
    (second : Production.andCond.Stands breaks B b)
    (third : Production.andCond.Stands breaks C c) :
    Production.cond.read
        { nodes := .group opener closer (nest.nodes A B C p q opener closer) :: more, stop } () =
      .ok (nest.combine .any a b c) { nodes := more, stop } () :=
  cond_group ((barred_cond.stands_nest round p q nest first second third).group round)

end

/-- Grouping does not matter. The equations are of computations, so they are of outcomes, of calls
with their order and scopes, and of all else that is left behind. -/
structure GroupsFreely [Regex.Engine] (σ : Type) : Prop where
  alternatives (call : HostFn → Scope → Run σ Value) (state event : Value) (xs ys zs : List Step)
    (s : Scope) :
    (Step.alternatives (xs ++ [.alternatives ys] ++ zs)).run call state event s =
      (Step.alternatives (xs ++ ys ++ zs)).run call state event s
  sequence (call : HostFn → Scope → Run σ Value) (state event : Value) (xs ys zs : List Step)
    (s : Scope) :
    (Step.sequence (xs ++ [.sequence ys] ++ zs)).run call state event s =
      (Step.sequence (xs ++ ys ++ zs)).run call state event s
  effects (env : Surroundings σ) (xs ys zs : List Effect) (s : Scope) :
    (Effect.alternatives (xs ++ [.alternatives ys] ++ zs)).react env s =
      (Effect.alternatives (xs ++ ys ++ zs)).react env s
  /-- Nothing after the alternative that reacts is evaluated. -/
  winner (env : Surroundings σ) {xs : List Effect} {s : Scope} {w u : World σ} {r : Reaction σ} :
    (Effect.alternatives xs).react env s w = (some r, u) →
    ∀ more, (Effect.alternatives (xs ++ more)).react env s w = (some r, u)
  all (call : HostFn → Scope → Run σ Value) (xs ys zs : List Cond) (s : Scope) :
    (Cond.all (xs ++ [.all ys] ++ zs)).test call s = (Cond.all (xs ++ ys ++ zs)).test call s
  any (call : HostFn → Scope → Run σ Value) (xs ys zs : List Cond) (s : Scope) :
    (Cond.any (xs ++ [.any ys] ++ zs)).test call s = (Cond.any (xs ++ ys ++ zs)).test call s
  /-- Three alternatives before the arrow of a rule, with brackets or without. -/
  rules {A B C : List (Node Value)} {a b c : Step} {opener closer : Token Value} :
    opener.text = Bracket.round.opener →
    Production.condEvent.Stands breaks A a → Production.condEvent.Stands breaks B b →
    Production.condEvent.Stands breaks C c →
    ∀ (p q r : Position) {more : List (Node Value)} {stop : Position} {e : Effect} {d : Cursor},
      Production.orEffect.read { nodes := more, stop } () = .ok e d () →
      ∀ nest : Nest, ∃ on, Production.rule.read
          { nodes := nest.nodes A B C p q opener closer ++ .token ⟨.operator, "->", r⟩ :: more,
            stop } () = .ok (.rule ⟨on, e⟩) d () ∧
        ∀ (call : HostFn → Scope → Run σ Value) (state event : Value) (s : Scope),
          on.run call state event s = (Step.alternatives [a, b, c]).run call state event s
  /-- Three alternatives for the state of a rule, in brackets. -/
  states {A B C : List (Node Value)} {a b c : Step} {opener closer : Token Value} :
    opener.text = Bracket.round.opener →
    Production.andState.Stands breaks A a → Production.andState.Stands breaks B b →
    Production.andState.Stands breaks C c →
    ∀ (p q stop : Position) (more : List (Node Value)) (nest : Nest), ∃ on,
      Production.state.read
          { nodes := .group opener closer (nest.nodes A B C p q opener closer) :: more, stop } () =
        .ok on { nodes := more, stop } () ∧
      ∀ (call : HostFn → Scope → Run σ Value) (state event : Value) (s : Scope),
        on.run call state event s = (Step.alternatives [a, b, c]).run call state event s
  /-- Three alternatives for a condition, in brackets. -/
  conditions {A B C : List (Node Value)} {a b c : Cond} {opener closer : Token Value} :
    opener.text = Bracket.round.opener →
    Production.andCond.Stands breaks A a → Production.andCond.Stands breaks B b →
    Production.andCond.Stands breaks C c →
    ∀ (p q stop : Position) (more : List (Node Value)) (nest : Nest), ∃ cond,
      Production.cond.read
          { nodes := .group opener closer (nest.nodes A B C p q opener closer) :: more, stop } () =
        .ok cond { nodes := more, stop } () ∧
      ∀ (call : HostFn → Scope → Run σ Value) (s : Scope),
        cond.test call s = (Cond.any [a, b, c]).test call s

/-- Alternatives within alternatives, sequences within sequences and connectives within the same
connectives do what their members do in their place. -/
theorem groups_freely [Regex.Engine] (σ : Type) : GroupsFreely σ where
  alternatives := Step.run_alternatives
  sequence := Step.run_sequence
  effects := Effect.react_alternatives
  winner := Effect.react_winner
  all call xs ys zs s := Cond.test_all call s xs ys zs
  any call xs ys zs s := Cond.test_any call s xs ys zs
  rules round first second third p q r _ stop _ _ effect nest :=
    ⟨_, rule_nest round p q stop nest first second third r effect,
      fun call state event s => nest.run call state event _ _ _ s⟩
  states round first second third p q stop _ nest :=
    ⟨_, state_nest round p q stop nest first second third,
      fun call state event s => nest.run call state event _ _ _ s⟩
  conditions round first second third p q stop _ nest :=
    ⟨_, cond_nest round p q stop nest first second third, fun call s => nest.test call _ _ _ s⟩

attribute [local instance] Regex.Engine.literal in
/-- The left side of `x @ e | (y @ e | z @ e) -> #X` does what that of `x @ e | y @ e | z @ e -> #X`
does, and the condition `((x | y) | z)` is the condition `(x | y | z)`. -/
theorem groups_freely_names :
    let name (x : String) : Node Value := .token ⟨.identifier, x, .start⟩
    let symbol (x : String) : Node Value := .token ⟨.operator, x, .start⟩
    let opener : Token Value := ⟨.punctuation, "(", .start⟩
    let closer : Token Value := ⟨.punctuation, ")", .start⟩
    let on (x : String) : List (Node Value) := [name x, symbol "@", name "e"]
    let step (x : String) : Step := .sequence [.state (.bind x), .event (.bind "e")]
    (∃ left, Production.rule.read
        { nodes := Nest.back.nodes (on "x") (on "y") (on "z") .start .start opener closer ++
            [symbol "->", symbol "#", name "X"], stop := .start } () =
        .ok (.rule ⟨left, .next (.tagged "X" []) []⟩) { nodes := [], stop := .start } () ∧
      ∀ (call : HostFn → Scope → Run Unit Value) (state event : Value) (s : Scope),
        left.run call state event s =
          (Step.alternatives [step "x", step "y", step "z"]).run call state event s) ∧
    (∃ cond, Production.cond.read
        { nodes := [.group opener closer
            (Nest.front.nodes [name "x"] [name "y"] [name "z"] .start .start opener closer)],
          stop := .start } () = .ok cond { nodes := [], stop := .start } () ∧
      ∀ (call : HostFn → Scope → Run Unit Value) (s : Scope), cond.test call s =
        (Cond.any [.truthy (.get "x"), .truthy (.get "y"), .truthy (.get "z")]).test call s) := by
  have condition (x : Identifier) : Production.andCond.Stands breaks
      [.token ⟨.identifier, x.text, .start⟩] (.truthy (.get x.text)) := by
    have alone : ReadsAlone [.token ⟨.identifier, x.text, .start⟩] (.get x.text) :=
      .of_reads (ReadsAt.of_operand (reads_identifier .start x) 0).reads
    have whole : ¬ Overtaken [.token ⟨.identifier, x.text, .start⟩] := by
      rintro ⟨_, _, ⟨⟩, _, ⟨⟩⟩
    exact andCond_stands (alone.cond_stands whole)
  let e : Identifier := ⟨⟨"e", by decide, by decide⟩, by decide⟩
  have left (x : Identifier) (bound : x.text ≠ "_") : Production.condEvent.Stands breaks
      [.token ⟨.identifier, x.text, .start⟩, .token ⟨.operator, "@", .start⟩,
        .token ⟨.identifier, "e", .start⟩]
      (.sequence [.state (.bind x.text), .event (.bind "e")]) :=
    condEvent_stands (state_identifier x bound .start)
      (event_stands (tagPattern_identifier e (by decide) .start)) .start
  have effect : Production.orEffect.read
      { nodes := [.token ⟨.operator, "#", .start⟩, .token ⟨.identifier, "X", .start⟩],
        stop := .start } () =
        .ok (.next (.tagged "X" []) []) { nodes := [], stop := .start } () := by
    simp (disch := first | decide | simp)
  let x : Identifier := ⟨⟨"x", by decide, by decide⟩, by decide⟩
  let y : Identifier := ⟨⟨"y", by decide, by decide⟩, by decide⟩
  let z : Identifier := ⟨⟨"z", by decide, by decide⟩, by decide⟩
  constructor
  · exact (groups_freely Unit).rules rfl (left x (by decide)) (left y (by decide))
      (left z (by decide)) .start .start .start effect .back
  · exact (groups_freely Unit).conditions rfl (condition x) (condition y) (condition z)
      .start .start .start [] .front

end RuleMachine
