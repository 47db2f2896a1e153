import RuleMachine.Proofs.Grammar.Unplaced
import RuleMachine.Proofs.Terms.Arrows
import RuleMachine.Store

/-!
# Programs with an effect in round brackets

A program with the effect of one of its rules in round brackets is a program again, and differs in
that rule only (`Template.parse_bracketed`). The rule is the same if its effect is an expression
alone. Otherwise the brackets make an action of the effect: its actions are taken, but it has no
next state, and it does not fail.
-/

namespace RuleMachine

open Plain

/-! ## One after the other -/

/-- Readings of a production, each from where the one before it ends. -/
inductive Production.Readings {α : Type} (n : Production α) : Cursor → List α → Cursor → Prop
  | nil (c : Cursor) : Readings n c [] c
  | cons {c d e : Cursor} {a : α} {as : List α} : n.read c () = .ok a d () → Readings n d as e →
      Readings n c (a :: as) e

namespace Production.Readings

variable {α : Type} {n : Production α} {c d e : Cursor} {a : α} {as bs : List α}
  {more more' : List (Node Value)} {stop : Position}

theorem goes (h : n.Readings c as d) (valid : c.Valid) : d.Valid ∧ c.Reaches d := by
  induction h with
  | nil c => exact ⟨valid, .refl c⟩
  | cons read _ ih =>
    obtain ⟨valid', reaches, -⟩ := n.read_goes valid read
    obtain ⟨valid'', reaches'⟩ := ih valid'
    exact ⟨valid'', reaches.trans reaches'⟩

theorem unsplit (h : n.Readings c as d) (ends : n.ends) (valid : c.Valid) (whole : c.split = 0) :
    d.split = 0 := by
  induction h with
  | nil => exact whole
  | cons read _ ih => exact ih (n.read_goes valid read).1 (n.read_unsplit ends valid read)

theorem append_iff : n.Readings c (as ++ bs) e ↔ ∃ d, n.Readings c as d ∧ n.Readings d bs e := by
  constructor
  · intro h
    induction as generalizing c with
    | nil => exact ⟨c, .nil c, h⟩
    | cons a as ih =>
      cases h with
      | cons read rest =>
        obtain ⟨d, front, back⟩ := ih rest
        exact ⟨d, .cons read front, back⟩
  · rintro ⟨d, front, back⟩
    induction front with
    | nil => exact back
    | cons read _ ih => exact .cons read (ih back)

theorem exists_read (h : n.Readings c as d) (valid : c.Valid) (mem : a ∈ as) :
    ∃ c d, c.Valid ∧ n.read c () = .ok a d () := by
  induction h with
  | nil => cases mem
  | cons read _ ih =>
    rcases List.mem_cons.mp mem with rfl | mem
    · exact ⟨_, _, valid, read⟩
    · exact ih (n.read_goes valid read).1 mem

/-- What is read before some nodes is read before others, if neither matter to any reading. -/
theorem carry
    (steady : ∀ {c d : Cursor} {a : α}, c.Valid → d.Valid →
      n.read (c.extend more stop) () = .ok a (d.extend more stop) () →
      (Phrase.production n).SteadyAt more c ∧ (Phrase.production n).SteadyAt more' c)
    (valid : c.Valid) (valid' : d.Valid)
    (h : n.Readings (c.extend more stop) as (d.extend more stop)) :
    n.Readings (c.extend more' stop) as (d.extend more' stop) := by
  generalize front : c.extend more stop = c₀ at h
  generalize back : d.extend more stop = d₀ at h
  induction h generalizing c with
  | nil =>
    rw [Cursor.extend_congr (front.trans back.symm)]
    exact .nil _
  | cons read rest ih =>
    subst front
    obtain ⟨valid₁, -, -⟩ := n.read_goes valid.extend read
    have within : ¬ Cursor.Beyond more stop _ := fun beyond =>
      Cursor.not_beyond_extend valid' (back ▸ (rest.goes valid₁).2.beyond valid₁ beyond)
    obtain ⟨e, valid₂, -, rfl⟩ := Cursor.exists_extend within stop
    obtain ⟨here, there⟩ := steady valid valid₂ read
    refine .cons ?_ (ih valid₂ rfl back)
    rw [← Phrase.parse_production Production.read] at read ⊢
    exact here.carry there read

end Production.Readings

/-- A repetition is read item by item, up to where none fits. -/
theorem Phrase.many_production_ok_iff {α : Type} {n : Production α} {c d : Cursor} {as : List α}
    (valid : c.Valid) :
    (Phrase.many (.production n)).parse Production.read c () = .ok as d () ↔
      n.Readings c as d ∧ n.read d () = .mismatch () := by
  induction as generalizing c with
  | nil =>
    rw [many_ok_iff rfl valid, parse_production]
    constructor
    · rintro (⟨_, _, _, -, -, ⟨⟩⟩ | ⟨none, -, rfl⟩)
      exact ⟨.nil c, none⟩
    · rintro ⟨⟨⟩, none⟩
      exact .inr ⟨none, rfl, rfl⟩
  | cons a as ih =>
    rw [many_ok_iff rfl valid, parse_production]
    constructor
    · rintro (⟨_, e, _, first, others, ⟨⟩⟩ | ⟨-, ⟨⟩, -⟩)
      obtain ⟨rest, none⟩ := (ih (n.read_goes valid first).1).mp others
      exact ⟨.cons first rest, none⟩
    · rintro ⟨_ | ⟨first, rest⟩, none⟩
      exact .inl ⟨a, _, as, first, (ih (n.read_goes valid first).1).mpr ⟨rest, none⟩, rfl⟩

/-- A row of readings of a production, one at least, up to where none fits. -/
structure Production.Row {α : Type} (n : Production α) (c : Cursor) (as : List α) (d : Cursor) :
    Prop where
  some : as ≠ []
  readings : n.Readings c as d
  none : n.read d () = .mismatch ()

theorem Production.row_iff {α : Type} {n : Production α} {c e : Cursor} {a : α} {as : List α}
    (valid : c.Valid) : n.Row c (a :: as) e ↔
      ∃ d, (Phrase.production n).parse Production.read c () = .ok a d () ∧
        (Phrase.many (.production n)).parse Production.read d () = .ok as e () := by
  constructor
  · rintro ⟨-, _ | ⟨first, rest⟩, none⟩
    have others := (Phrase.many_production_ok_iff (n.read_goes valid first).1).mpr ⟨rest, none⟩
    rw [← Phrase.parse_production Production.read] at first
    exact ⟨_, first, others⟩
  · rintro ⟨d, first, others⟩
    rw [Phrase.parse_production] at first
    obtain ⟨rest, none⟩ := (Phrase.many_production_ok_iff (n.read_goes valid first).1).mp others
    exact ⟨List.cons_ne_nil a as, .cons first rest, none⟩

/-! ## Programs -/

section

open Phrase

variable {c d : Cursor} {ds : List Declaration}

theorem finish_ok_iff (what : String) :
    (Phrase.finish what : Phrase Production Unit).parse Production.read c () = .ok () d () ↔
      c.AtEnd ∧ c.skipLines = d := by
  rw [parse_finish, Parse.finish, Cursor.AtEnd]
  by_cases ended : c.skipLines.nodes = []
  · simp [ended]
  · simp [ended]

theorem program_phrase : Production.program.phrase =
    .seq (.seq (.seq ((fun d ds r rs => d :: ds ++ r :: rs) <$> .production .declaration)
      (.many (.production .declaration))) (.production .rule))
      (.many (.production .rule) <* .finish "end of input") := rfl

/-- A program is a row of declarations and then one of rules, up to the end. -/
theorem program_ok_iff (valid : c.Valid) : Production.program.read c () = .ok ds d () ↔
    ∃ declared ruled c₁ c₂, Production.declaration.Row c declared c₁ ∧
      Production.rule.Row c₁ ruled c₂ ∧ c₂.AtEnd ∧ c₂.skipLines = d ∧ declared ++ ruled = ds := by
  rw [Production.program.read_eq valid, program_phrase]
  constructor
  · intro read
    obtain ⟨_, _, _, untilRules, last, rfl⟩ := seq_ok_iff.mp read
    obtain ⟨_, c₁, r, untilRule, rule, rfl⟩ := seq_ok_iff.mp untilRules
    obtain ⟨_, _, more, start, others, rfl⟩ := seq_ok_iff.mp untilRule
    obtain ⟨a, first, rfl⟩ := map_ok_iff.mp start
    obtain ⟨_, c₂, _, rest, finish, rfl⟩ := seq_ok_iff.mp last
    obtain ⟨rs, rules, rfl⟩ := map_ok_iff.mp rest
    have declared := (Production.row_iff valid).mpr ⟨_, first, others⟩
    have valid₁ := (declared.readings.goes valid).1
    obtain ⟨atEnd, skipped⟩ := (finish_ok_iff _).mp finish
    exact ⟨a :: more, r :: rs, c₁, c₂, declared, (Production.row_iff valid₁).mpr ⟨_, rule, rules⟩,
      atEnd, skipped, rfl⟩
  · rintro ⟨declared, ruled, c₁, c₂, row, row', atEnd, skipped, rfl⟩
    obtain ⟨a, more, rfl⟩ := List.exists_cons_of_ne_nil row.some
    obtain ⟨r, rs, rfl⟩ := List.exists_cons_of_ne_nil row'.some
    obtain ⟨_, first, others⟩ := (Production.row_iff valid).mp row
    obtain ⟨_, rule, rules⟩ := (Production.row_iff (row.readings.goes valid).1).mp row'
    have finish := (finish_ok_iff "end of input").mpr ⟨atEnd, skipped⟩
    exact seq_ok_iff.mpr ⟨_, _, _, seq_ok_iff.mpr ⟨_, _, _, seq_ok_iff.mpr ⟨_, _, _,
      map_ok_iff.mpr ⟨_, first, rfl⟩, others, rfl⟩, rule, rfl⟩,
      seq_ok_iff.mpr ⟨_, _, (), map_ok_iff.mpr ⟨_, rules, rfl⟩, finish, rfl⟩, rfl⟩

/-- What is declared of states and actions is no rule. -/
theorem not_rule_of_declaration (valid : c.Valid) (r : Rule) :
    Production.declaration.read c () ≠ .ok (.rule r) d () := by
  rw [Production.declaration.read_eq valid]
  intro read
  rcases orElse_ok_iff.mp read with states | ⟨-, others⟩
  · obtain ⟨_, -, ⟨⟩⟩ := map_ok_iff.mp states
  rcases orElse_ok_iff.mp others with actions | ⟨-, start⟩
  · obtain ⟨_, -, ⟨⟩⟩ := map_ok_iff.mp actions
  · obtain ⟨_, -, ⟨⟩⟩ := map_ok_iff.mp start

/-- What comes before a rule of a program: declarations, and then other rules. -/
def Precedes (before : List Declaration) (c d : Cursor) : Prop :=
  ∃ declared rules c₁, Production.declaration.Row c declared c₁ ∧
    Production.rule.Readings c₁ rules d ∧ declared ++ rules = before

theorem Precedes.goes {before : List Declaration} (h : Precedes before c d) (valid : c.Valid) :
    d.Valid ∧ c.Reaches d := by
  obtain ⟨_, _, _, row, rules, -⟩ := h
  obtain ⟨valid₁, reaches₁⟩ := row.readings.goes valid
  obtain ⟨valid₂, reaches₂⟩ := rules.goes valid₁
  exact ⟨valid₂, reaches₁.trans reaches₂⟩

theorem Precedes.unsplit {before : List Declaration} (h : Precedes before c d) (valid : c.Valid)
    (whole : c.split = 0) : d.split = 0 := by
  obtain ⟨_, _, _, row, rules, -⟩ := h
  exact rules.unsplit rfl (row.readings.goes valid).1 (row.readings.unsplit rfl valid whole)

/-- A rule of a program is not among its declarations. -/
theorem exists_earlier {declared ruled before after : List Declaration} {c₁ : Cursor} {r : Rule}
    (valid : c.Valid) (row : Production.declaration.Row c declared c₁)
    (split : declared ++ ruled = before ++ .rule r :: after) :
    ∃ earlier, before = declared ++ earlier ∧ ruled = earlier ++ .rule r :: after := by
  rcases List.append_eq_append_iff.mp split with ⟨earlier, rfl, same⟩ | ⟨later, rfl, same⟩
  · exact ⟨earlier, rfl, same⟩
  · cases later with
    | nil => exact ⟨[], by rw [List.append_nil, List.append_nil], same.symm⟩
    | cons a later =>
      obtain ⟨rfl, -⟩ := List.cons.inj same
      obtain ⟨_, _, valid', one⟩ :=
        row.readings.exists_read valid (List.mem_append_right before List.mem_cons_self)
      exact absurd one (not_rule_of_declaration valid' r)

/-- Every rule of a program is read after what comes before it and before the other rules. -/
theorem program_rule_iff (valid : c.Valid) {before after : List Declaration} {r : Rule} :
    Production.program.read c () = .ok (before ++ .rule r :: after) d () ↔
      ∃ e e' c₂, Precedes before c e ∧ Production.rule.read e () = .ok (.rule r) e' () ∧
        (Production.rule.Readings e' after c₂ ∧ Production.rule.read c₂ () = .mismatch ()) ∧
        c₂.AtEnd ∧ c₂.skipLines = d := by
  rw [program_ok_iff valid]
  constructor
  · rintro ⟨declared, ruled, c₁, c₂, row, rules, atEnd, skipped, split⟩
    obtain ⟨earlier, rfl, rfl⟩ := exists_earlier valid row split
    obtain ⟨e, front, back⟩ := Production.Readings.append_iff.mp rules.readings
    cases back with
    | @cons _ e' _ _ _ one rest =>
      exact ⟨e, e', c₂, ⟨declared, earlier, c₁, row, front, rfl⟩, one, ⟨rest, rules.none⟩, atEnd,
        skipped⟩
  · rintro ⟨e, e', c₂, ⟨declared, earlier, c₁, row, front, rfl⟩, one, ⟨rest, none⟩, atEnd, skipped⟩
    have rules : Production.rule.Row c₁ (earlier ++ .rule r :: after) c₂ :=
      ⟨by simp, Production.Readings.append_iff.mpr ⟨e, front, .cons one rest⟩, none⟩
    exact ⟨declared, _, c₁, c₂, row, rules, atEnd, skipped, (List.append_assoc ..).symm⟩

end

/-! ## Before an arrow with an effect -/

namespace Reacts

open Phrase

variable {c d : Cursor} {ds : List Declaration} {more : List (Node Value)} {stop : Position}
  {t : Token Value} {ns : List (Node Value)}

theorem carry_declarations (h : Reacts more stop) (arrow : t.IsArrow) (valid : c.Valid)
    (valid' : d.Valid)
    (read : Production.declaration.Readings (c.extend more stop) ds (d.extend more stop)) :
    Production.declaration.Readings (c.extend (.token t :: ns) stop) ds
      (d.extend (.token t :: ns) stop) := by
  obtain ⟨⟨t₀, rest, rfl, arrow₀⟩, -⟩ := h
  exact read.carry
    (fun {c _ _} valid _ _ => ⟨arrow₀.declaration c valid, arrow.declaration c valid⟩) valid valid'

theorem carry_rules (h : Reacts more stop) (arrow : t.IsArrow) (valid : c.Valid)
    (valid' : d.Valid)
    (read : Production.rule.Readings (c.extend more stop) ds (d.extend more stop)) :
    Production.rule.Readings (c.extend (.token t :: ns) stop) ds
      (d.extend (.token t :: ns) stop) := by
  obtain ⟨⟨t₀, rest, rfl, arrow₀⟩, -⟩ := id h
  exact read.carry (fun valid valid' one =>
    ⟨h.steady_rule valid valid' one arrow₀, h.steady_rule valid valid' one arrow⟩) valid valid'

theorem carry_undeclared (h : Reacts more stop) (arrow : t.IsArrow) (valid : c.Valid)
    (none : Production.declaration.read (c.extend more stop) () = .mismatch ()) :
    Production.declaration.read (c.extend (.token t :: ns) stop) () = .mismatch () := by
  obtain ⟨⟨t₀, rest, rfl, arrow₀⟩, -⟩ := h
  rw [← parse_production Production.read] at none ⊢
  rw [arrow₀.declaration c valid stop, Reply.extend_eq_mismatch] at none
  rw [arrow.declaration c valid stop, none, Reply.extend]

/-- What comes before a rule is read before it whatever its arrow is. -/
theorem carry (h : Reacts more stop) (arrow : t.IsArrow) (valid : c.Valid) (valid' : d.Valid)
    (precedes : Precedes ds (c.extend more stop) (d.extend more stop)) :
    Precedes ds (c.extend (.token t :: ns) stop) (d.extend (.token t :: ns) stop) := by
  obtain ⟨declared, rules, c₁, ⟨some, readings, none⟩, earlier, rfl⟩ := precedes
  have valid₁ := (readings.goes valid.extend).1
  have within : ¬ c₁.Beyond more stop := fun beyond =>
    Cursor.not_beyond_extend valid' ((earlier.goes valid₁).2.beyond valid₁ beyond)
  obtain ⟨b, valid₂, -, rfl⟩ := Cursor.exists_extend within stop
  exact ⟨declared, rules, b.extend (.token t :: ns) stop,
    ⟨some, h.carry_declarations arrow valid valid₂ readings,
      h.carry_undeclared arrow valid₂ none⟩,
    h.carry_rules arrow valid₂ valid' earlier, rfl⟩

end Reacts

/-! ## The program -/

/-- After a rule comes another one, or the end. -/
theorem Fresh.of_readings {back : List (Node Value)} {stop : Position} {ds : List Declaration}
    {d : Cursor} (rest : Production.rule.Readings { nodes := back, stop } ds d) (atEnd : d.AtEnd) :
    Fresh back := by
  cases rest with
  | nil => exact .of_atEnd (List.dropWhile_eq_nil_iff.mp atEnd)
  | cons read _ => exact .of_rule read

/-- The nodes have an arrow and the effect in them, and the effect is one when it stands alone. -/
structure Effect.StandsIn (e : Effect) (ns front effect back : List (Node Value)) : Prop where
  nodes : ∃ whole, ns = front ++ (whole ++ back) ∧ Arrowed whole effect
  alone : ∀ place, Production.orEffect.read { nodes := effect, stop := place } () =
    .ok e { nodes := [], stop := place } ()

/-- A program is one with the effect of a rule in round brackets, too. -/
theorem Tree.program_bracketed {t : Tree Value} {ds : List Declaration} {i : Nat} {r : Rule}
    (program : t.program = .ok ds) (listed : ds[i]? = some (.rule r)) :
    ∃ front effect back, r.effect.StandsIn t.nodes front effect back ∧
      ∀ {t' : Tree Value} {arrow opener closer : Token Value}, arrow.isSymbol →
        arrow.text = "->" → opener.text = Bracket.round.opener →
        Node.Alike (front ++ bracketedNodes arrow opener closer effect back) t'.nodes →
        t'.program = .ok (ds.set i (.rule r.bracketed)) := by
  obtain ⟨bound, found⟩ := List.getElem?_eq_some_iff.mp listed
  obtain ⟨before, after, split, -, set⟩ : ∃ before after, ds = before ++ ds[i] :: after ∧
      before.length = i ∧ ds.set i (.rule r.bracketed) = before ++ .rule r.bracketed :: after :=
    List.exists_of_set bound
  obtain ⟨d, read⟩ := plain_of_program program
  rw [split, found] at read
  obtain ⟨e, e', c₂, precedes, one, ⟨rest, unruled⟩, atEnd, skipped⟩ :=
    (program_rule_iff t.start_valid).mp read
  obtain ⟨valid, reaches⟩ := precedes.goes t.start_valid
  obtain ⟨passed, ns, nodes, rfl⟩ := reaches.exists_passed (precedes.unsplit t.start_valid rfl)
  obtain ⟨-, reaches', -⟩ := Production.read_goes _ valid one
  obtain ⟨-, back, -, rfl⟩ := reaches'.exists_passed (Production.rule.read_unsplit rfl valid one)
  obtain ⟨left, whole, effect, rfl, arrowed, alone, reacts, bracketed⟩ :=
    rule_bracketed (.of_readings rest atEnd) one
  have stands : r.effect.StandsIn t.nodes (passed ++ left) effect back := by
    refine ⟨⟨whole, ?_, arrowed⟩, alone⟩
    rw [List.append_assoc]
    exact nodes
  refine ⟨passed ++ left, effect, back, stands,
    fun {t' arrow opener closer} symbol text round alike => ?_⟩
  have arrow' : arrow.IsArrow := ⟨symbol, text ▸ List.prefix_refl _⟩
  let more := bracketedNodes arrow opener closer effect back
  have precedes' : Precedes before { nodes := passed ++ left ++ more, stop := t.stop }
      { nodes := left ++ more, stop := t.stop } := by
    have start : t.start =
        { nodes := passed ++ left ++ (whole ++ back), stop := t.stop } := by
      rw [List.append_assoc, ← nodes]
      rfl
    rw [start] at precedes
    exact reacts.carry (c := { nodes := passed ++ left, stop := t.stop })
      (d := { nodes := left, stop := t.stop }) arrow' (.inl rfl) (.inl rfl) precedes
  have read' := (program_rule_iff (d := d) (.inl rfl)).mpr
    ⟨_, _, c₂, precedes', bracketed symbol text round, ⟨rest, unruled⟩, atEnd, skipped⟩
  have program' : Tree.program { nodes := passed ++ left ++ more, stop := t.stop } = .ok _ :=
    Tree.program_of_plain read'
  rw [set]
  exact Tree.program_alike alike program'

/-! ## What brackets leave of an effect -/

section

variable [Regex.Engine] {σ : Type} (env : Surroundings σ)

/-- Chooses the reaction of an effect and takes its actions at once. What is left is the next
state. -/
def Effect.take (e : Effect) (s : Scope) : Run σ (Outcome (Option Value)) := do
  match ← e.react env s with
  | some reaction =>
    reaction.thunk
    pure (some reaction.next)
  | none => pure none

variable {env} {s : Scope} {e : Effect}

omit [Regex.Engine] in
theorem Effect.bracketed_eq (other : ∀ x, e ≠ .next x []) : e.bracketed = .only [.nested e] := by
  unfold bracketed
  split
  · exact absurd rfl (other _)
  · rfl

/-- An action takes the actions of its effect, and drops the rest. -/
theorem Action.run_nested (w : World σ) :
    Action.run env (.nested e) s w = ((), (e.take env s w).2) := by
  rw [Action.run, Effect.take, bind_apply, bind_apply]
  rcases e.react env s w with ⟨_ | reaction, w'⟩ <;> rfl

end

/-- An effect `e'` that does no more than to take the actions of `e`, if it applies: it does not
fail, it has no next state, and nothing of `e` is evaluated before the actions are taken. -/
structure Effect.OnlyActs (e' e : Effect) : Prop where
  react [Regex.Engine] {σ : Type} (env : Surroundings σ) (s : Scope) : ∃ thunk : Run σ Unit,
    e'.react env s = pure (some ⟨none, thunk⟩) ∧ ∀ w, thunk w = ((), (e.take env s w).2)

namespace Effect

variable {e e' : Effect}

theorem bracketed_onlyActs (other : ∀ x, e ≠ .next x []) : e.bracketed.OnlyActs e := by
  refine ⟨fun env s => ⟨Action.run env (.nested e) s, ?_, Action.run_nested⟩⟩
  rw [bracketed_eq other]
  simp [Effect.react, Action.runAll]

variable [Regex.Engine] {σ : Type} {env : Surroundings σ} {s : Scope}

/-- Where an effect comes to actions alone, whatever the world, brackets do not matter. -/
theorem OnlyActs.react_eq (h : e'.OnlyActs e) {thunk : Run σ Unit}
    (chosen : e.react env s = pure (some ⟨none, thunk⟩)) : e'.react env s = e.react env s := by
  obtain ⟨thunk', react, acts⟩ := h.react env s
  have same : thunk' = thunk := by
    funext w
    rw [acts w, take, chosen]
    rfl
  rw [react, chosen, same]

theorem OnlyActs.take_eq (h : e'.OnlyActs e) (w : World σ) :
    e'.take env s w = (some none, (e.take env s w).2) := by
  obtain ⟨thunk, react, acts⟩ := h.react env s
  rw [take, react, pure_bind]
  dsimp only
  rw [bind_apply, acts w]
  rfl

end Effect

/-- With its effect in brackets a rule is taken wherever its left side matches. -/
theorem Rule.bracketed_react_isSome {r : Rule} (acts : r.bracketed.effect.OnlyActs r.effect)
    [Regex.Engine] {σ : Type} (env : Surroundings σ) (event state : Value) (w : World σ) :
    (r.bracketed.react env event state w).1.isSome =
      (r.on.run env.call state event .empty w).1.isSome := by
  have on : r.bracketed.on = r.on := rfl
  rw [react, on, bind_apply]
  rcases r.on.run env.call state event .empty w with ⟨_ | s, w'⟩
  · rfl
  · obtain ⟨thunk, reacts, -⟩ := acts.react env s
    dsimp only
    rw [reacts]
    rfl

namespace Template

/-- The effect of a rule may be put in round brackets, and the other declarations stay as they are.
If the effect is an expression alone, the rule is the same. Otherwise it is taken wherever its left
side matches, never moves, and acts as the effect does. Where the effect does not move or fail
either, brackets do not matter. -/
theorem parse_bracketed {t : Template} {ds : List Declaration} {i : Nat} {r : Rule}
    (parsed : t.parse = .ok ds) (listed : ds[i]? = some (.rule r)) :
    (∃ tree front effect back, t.tree = .ok tree ∧
      r.effect.StandsIn tree.nodes front effect back ∧
      ∀ {t' : Template} {tree' : Tree Value} {arrow opener closer : Token Value},
        t'.tree = .ok tree' → arrow.isSymbol → arrow.text = "->" →
        opener.text = Bracket.round.opener →
        Node.Alike (front ++ bracketedNodes arrow opener closer effect back) tree'.nodes →
        t'.parse = .ok (ds.set i (.rule r.bracketed))) ∧
    r.bracketed.on = r.on ∧
    (∀ x, r.effect = .next x [] → r.bracketed = r) ∧
    ((∀ x, r.effect ≠ .next x []) → r.bracketed.effect.OnlyActs r.effect ∧
      ∀ [Regex.Engine] {σ : Type} (env : Surroundings σ) (event state : Value) (w : World σ),
        (r.bracketed.react env event state w).1.isSome =
          (r.on.run env.call state event .empty w).1.isSome) ∧
    ∀ [Regex.Engine] {σ : Type} (env : Surroundings σ) (s : Scope),
      (∀ thunk, r.effect.react env s = pure (some ⟨none, thunk⟩) →
        r.bracketed.effect.react env s = r.effect.react env s) ∧
      ∀ w, (r.effect.take env s w).1 = some none →
        r.bracketed.effect.take env s w = r.effect.take env s w := by
  obtain ⟨tree, made, program⟩ := parse_ok.mp parsed
  obtain ⟨front, effect, back, stands, bracketed⟩ := tree.program_bracketed program listed
  have same (x : Expr) (next : r.effect = .next x []) : r.bracketed = r := by
    rw [Rule.bracketed, next]
    exact congrArg (Rule.mk r.on) next.symm
  refine ⟨⟨tree, front, effect, back, made, stands, ?_⟩, rfl, same, ?_, ?_⟩
  · intro t' tree' arrow opener closer made' symbol text round alike
    exact parse_ok.mpr ⟨tree', made', bracketed symbol text round alike⟩
  · intro other
    have acts := Effect.bracketed_onlyActs other
    exact ⟨acts, fun env event state w => Rule.bracketed_react_isSome acts env event state w⟩
  · intro _ σ env s
    by_cases next : ∃ x, r.effect = .next x []
    · obtain ⟨x, next⟩ := next
      rw [same x next]
      exact ⟨fun _ _ => rfl, fun _ _ => rfl⟩
    · have acts := Effect.bracketed_onlyActs (not_exists.mp next)
      refine ⟨fun thunk chosen => acts.react_eq chosen, fun w stays => ?_⟩
      exact (acts.take_eq w).trans (Prod.ext stays.symm rfl)

/-! ## A guarded next state -/

section Guarded

attribute [local instance] Regex.Engine.literal

namespace Guarded

/-- A program with one rule, which has the effect and matches whatever comes. -/
def program (effect : String) : Template := .ofText ("start = null\n_ @ _ -> " ++ effect)

def word (text : String) (place : Position) : Node Value := .token ⟨.identifier, text, place⟩

def symbol (text : String) (place : Position) : Node Value := .token ⟨.operator, text, place⟩

def host : Host Unit where
  behaviour _ := .immediate fun _ => .done .undefined
  callback _ := .done ()

def world : World Unit := { state := .undefined, nextAllocation := 0, memory := () }

/-- What a dispatch in the start state of the program comes to. -/
def dispatched (effect : String) : Option Dispatched := do
  let ds ← (program effect).parse.toOption
  let (built, w) := Store.build host true {} ds world
  let st ← built.toOption
  (st.dispatch .null w).1.toOption

/-- The nodes up to the arrow. -/
def front : List (Node Value) :=
  [word "start" ⟨0, 1, 1⟩, symbol "=" ⟨6, 1, 7⟩, word "null" ⟨8, 1, 9⟩,
    .token ⟨.line, "\n", ⟨12, 1, 13⟩⟩, word "_" ⟨13, 2, 1⟩, symbol "@" ⟨15, 2, 3⟩,
    word "_" ⟨17, 2, 5⟩]

/-- The nodes of a guarded next state. -/
def effect : List (Node Value) :=
  [word "true" ⟨22, 2, 10⟩, word "if" ⟨27, 2, 15⟩, word "true" ⟨30, 2, 18⟩]

/-- Whether a guarded effect is read, up to the end. -/
def isGuarded : Reply Unit Effect → Bool
  | .ok (.guarded ..) ⟨[], _, _⟩ _ => true
  | _ => false

/-- Whether a declaration is a rule with a guarded effect. -/
def isGuardedRule : Declaration → Bool
  | .rule ⟨_, .guarded ..⟩ => true
  | _ => false

theorem exists_of_isGuardedRule {d : Declaration} (h : isGuardedRule d) :
    ∃ on e c, d = .rule ⟨on, .guarded e c⟩ := by
  unfold isGuardedRule at h
  split at h
  · exact ⟨_, _, _, rfl⟩
  · cases h

/-- The effect stands nowhere else. -/
theorem unique {e : Effect} {c : Cond} {before inside back : List (Node Value)}
    (h : (Effect.guarded e c).StandsIn (front ++ symbol "->" ⟨19, 2, 7⟩ :: effect) before inside
      back) : before = front ∧ inside = effect ∧ back = [] := by
  obtain ⟨⟨whole, nodes, arrowed⟩, alone⟩ := h
  have absent (t : Token Value) (arrow : t.text ∈ ["->", "->#"]) :
      .token t ∉ front ∧ .token t ∉ effect := by
    rw [← not_or, ← List.mem_append]
    intro mem
    simp only [front, effect, word, symbol, List.mem_append, List.mem_cons, List.not_mem_nil,
      Node.token.injEq, or_false] at mem
    rcases mem with (rfl | rfl | rfl | rfl | rfl | rfl | rfl) | rfl | rfl | rfl <;>
      exact absurd arrow (by decide)
  cases arrowed with
  | @apart t _ isSymbol text =>
    obtain ⟨there, after⟩ := absent t (by simp [text])
    obtain ⟨rfl, -, same⟩ := (List.append_cons_inj_of_notMem there after).mp nodes
    have guarded : isGuarded (Production.orEffect.read { nodes := inside, stop := .start } ()) :=
      congrArg isGuarded (alone .start)
    have few : ∀ n < 3, ¬ isGuarded
        (Production.orEffect.read { nodes := effect.take n, stop := .start } ()) := by
      decide +kernel
    have taken := List.prefix_iff_eq_take.mp ⟨back, same.symm⟩
    have all : inside = effect := by
      rcases Nat.lt_or_ge inside.length 3 with short | long
      · exact absurd (taken ▸ guarded) (few _ short)
      · rw [taken, List.take_of_length_le long]
    subst all
    exact ⟨rfl, rfl, List.append_right_eq_self.mp same.symm⟩
  | @joined t _ _ _ text =>
    obtain ⟨there, after⟩ := absent t (by simp [text])
    obtain ⟨-, arrow, -⟩ := (List.append_cons_inj_of_notMem there after).mp nodes
    cases arrow
    exact absurd text (by decide)

end Guarded

open Guarded

theorem parse_bracketed_guarded : ∃ ds r, (program "true if true").parse = .ok ds ∧
    ds[1]? = some (.rule r) ∧ (∀ x, r.effect ≠ .next x []) ∧
      (program "(true if true)").parse = .ok (ds.set 1 (.rule r.bracketed)) := by
  have guarded : (program "true if true").parse.toOption.any (·[1]?.any isGuardedRule) := by
    decide +kernel
  have made : (program "true if true").tree =
      .ok ⟨front ++ symbol "->" ⟨19, 2, 7⟩ :: effect, ⟨34, 2, 22⟩⟩ := rfl
  cases parsed : (program "true if true").parse with
  | error e => simp [parsed, Except.toOption] at guarded
  | ok ds =>
    simp only [parsed, Except.toOption, Option.any_some] at guarded
    obtain ⟨d, listed, rule⟩ := (Option.any_eq_true _ _).mp guarded
    obtain ⟨on, e, c, rfl⟩ := exists_of_isGuardedRule rule
    have other (x : Expr) : Effect.guarded e c ≠ .next x [] := by simp
    refine ⟨ds, _, rfl, listed, other, ?_⟩
    obtain ⟨⟨tree, before, inside, back, made', stands, bracketed⟩, -⟩ :=
      parse_bracketed parsed listed
    obtain rfl := Except.ok.inj (made.symm.trans made')
    obtain ⟨rfl, rfl, rfl⟩ := unique stands
    obtain ⟨tree', made', alike⟩ : ∃ tree', (program "(true if true)").tree = .ok tree' ∧
        Node.Alike (front ++ bracketedNodes ⟨.operator, "->", ⟨19, 2, 7⟩⟩
          ⟨.punctuation, "(", ⟨22, 2, 10⟩⟩ ⟨.punctuation, ")", ⟨35, 2, 23⟩⟩ effect [])
          tree'.nodes := by
      refine ⟨_, rfl, ?_⟩
      repeat constructor
    exact bracketed made' rfl rfl rfl alike

/-- In brackets a next state is ignored, and an effect that fails is an action that does nothing. -/
theorem dispatch_bracketed_differs :
    dispatched "true if true" = some (.matched 0 true) ∧
      dispatched "(true if true)" = some (.matched 0 false) ∧
      dispatched "true if false" = some .unmatched ∧
      dispatched "(true if false)" = some (.matched 0 false) := by
  decide +kernel

end Guarded

end Template

end RuleMachine
