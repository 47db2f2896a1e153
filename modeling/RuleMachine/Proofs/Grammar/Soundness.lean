import RuleMachine.Proofs.Grammar.Sentences
import RuleMachine.Template

/-!
# What is read derives from the grammar

The sentences of the phrase of a production derive from the production, case by case
(`Production.sound`). So the pieces of a source that is a program, all of them, derive from the
grammar, and the derivation builds the declarations of the program (`Tree.program_derives`).
-/

namespace RuleMachine

namespace Production

open Phrase Sentences

/-- The last production of a source passes the line breaks at its end. -/
def closing : {α : Type} → Production α → Bool
  | _, program => true
  | _, _ => false

/-- What derives from a production. -/
def language : {α : Type} → Production α → Sentences α := fun n _ ps b' x =>
  Derives n ps x ∧ (b' → n.closing)

theorem unbroken {α : Type} {n : Production α} {b : Bool} {ps : List Piece} {x : α}
    (h : Derives n ps x) : n.language b ps false x :=
  ⟨h, nofun⟩

/-- What is built from what derives from other productions derives from this one. -/
def Sound {α : Type} (n : Production α) : Prop :=
  ∀ ⦃b ps b' x⦄, n.phrase.sentences language b ps b' x → n.language b ps b' x

variable {α β : Type} {b b' : Bool} {ps : List Piece}

section

variable {p : Phrase Production α} {q : Phrase Production β} {x : α} {y : β}

theorem sentences_map {g : α → β} :
    (g <$> p).sentences language b ps b' y ↔ ∃ x, p.sentences language b ps b' x ∧ y = g x := by
  constructor
  · rintro ⟨_, ps, _, _, rfl, ⟨rfl, rfl, rfl⟩, x, sentence, rfl⟩
    exact ⟨x, sentence, rfl⟩
  · rintro ⟨x, sentence, rfl⟩
    exact ⟨[], ps, b, g, rfl, ⟨rfl, rfl, rfl⟩, x, sentence, rfl⟩

theorem sentences_seq {p : Phrase Production (α → β)} {q : Phrase Production α} :
    (p <*> q).sentences language b ps b' y ↔ ∃ ps₁ ps₂ b₁ g x, ps = ps₁ ++ ps₂ ∧
      p.sentences language b ps₁ b₁ g ∧ q.sentences language b₁ ps₂ b' x ∧ y = g x := by
  constructor
  · rintro ⟨ps₁, ps₂, b₁, g, rfl, first, x, second, rfl⟩
    exact ⟨ps₁, ps₂, b₁, g, x, rfl, first, second, rfl⟩
  · rintro ⟨ps₁, ps₂, b₁, g, x, rfl, first, second, rfl⟩
    exact ⟨ps₁, ps₂, b₁, g, rfl, first, x, second, rfl⟩

theorem sentences_seqRight :
    (p *> q).sentences language b ps b' y ↔ ∃ ps₁ ps₂ b₁ x, ps = ps₁ ++ ps₂ ∧
      p.sentences language b ps₁ b₁ x ∧ q.sentences language b₁ ps₂ b' y := by
  refine (sentences_seq (p := Function.const α id <$> p)).trans ?_
  simp only [sentences_map]
  constructor
  · rintro ⟨ps₁, ps₂, b₁, _, y, rfl, ⟨x, first, rfl⟩, second, rfl⟩
    exact ⟨ps₁, ps₂, b₁, x, rfl, first, second⟩
  · rintro ⟨ps₁, ps₂, b₁, x, rfl, first, second⟩
    exact ⟨ps₁, ps₂, b₁, _, y, rfl, ⟨x, first, rfl⟩, second, rfl⟩

theorem sentences_seqLeft :
    (p <* q).sentences language b ps b' x ↔ ∃ ps₁ ps₂ b₁ y, ps = ps₁ ++ ps₂ ∧
      p.sentences language b ps₁ b₁ x ∧ q.sentences language b₁ ps₂ b' y := by
  refine (sentences_seq (p := Function.const β <$> p)).trans ?_
  simp only [sentences_map]
  constructor
  · rintro ⟨ps₁, ps₂, b₁, _, y, rfl, ⟨x, first, rfl⟩, second, rfl⟩
    exact ⟨ps₁, ps₂, b₁, y, rfl, first, second⟩
  · rintro ⟨ps₁, ps₂, b₁, y, rfl, first, second⟩
    exact ⟨ps₁, ps₂, b₁, _, y, rfl, ⟨x, first, rfl⟩, second, rfl⟩

theorem sentences_orElse {q : Phrase Production α} :
    (orElse p q).sentences language b ps b' x ↔
      p.sentences language b ps b' x ∨ q.sentences language b ps b' x := by
  constructor
  · rintro (⟨ps, _, _, x, rfl, left, _, ⟨rfl, rfl, rfl⟩, rfl⟩ | right)
    · exact .inl (by simpa using left)
    · exact .inr right
  · rintro (left | right)
    · exact .inl ⟨ps, [], b', x, by simp, left, id, ⟨rfl, rfl, rfl⟩, rfl⟩
    · exact .inr right

theorem sentences_oneOf {q : Phrase Production α} {qs : List (Phrase Production α)} :
    (oneOf (p :: q :: qs)).sentences language b ps b' x ↔
      p.sentences language b ps b' x ∨ (oneOf (q :: qs)).sentences language b ps b' x :=
  sentences_orElse

theorem sentences_oneOf_singleton :
    (oneOf [p]).sentences language b ps b' x ↔ p.sentences language b ps b' x := Iff.rfl

theorem sentences_fail {what : Option String} :
    (fail what : Phrase Production α).sentences language b ps b' x ↔ False := Iff.rfl

theorem sentences_optional {x : Option α} :
    (Phrase.optional p).sentences language b ps b' x ↔
      (∃ a, p.sentences language b ps b' a ∧ x = some a) ∨ ps = [] ∧ b' = b ∧ x = none := by
  constructor
  · rintro (⟨ps, _, _, a, rfl, left, _, ⟨rfl, rfl, rfl⟩, rfl⟩ | right)
    · exact .inl ⟨a, by simpa using left, rfl⟩
    · exact .inr right
  · rintro (⟨a, left, rfl⟩ | right)
    · exact .inl ⟨ps, [], b', a, by simp, left, some, ⟨rfl, rfl, rfl⟩, rfl⟩
    · exact .inr right

theorem sentences_constant {text : String} {y : α} :
    (constant text x).sentences language b ps b' y ↔
      ∃ b₁, ps = [.word b₁ text] ∧ b' = false ∧ y = x := by
  refine sentences_map.trans ⟨?_, ?_⟩
  · rintro ⟨_, ⟨_, rfl, rfl, b₁, rfl⟩, rfl⟩
    exact ⟨b₁, rfl, rfl, rfl⟩
  · rintro ⟨b₁, rfl, rfl, rfl⟩
    exact ⟨(), ⟨_, rfl, rfl, b₁, rfl⟩, rfl⟩

theorem sentences_operator {text : String} {y : α} :
    (operator text x).sentences language b ps b' y ↔
      ∃ b₁, ps = [.symbol b₁ text] ∧ b' = false ∧ y = x := by
  refine sentences_map.trans ⟨?_, ?_⟩
  · rintro ⟨_, ⟨_, rfl, rfl, b₁, rfl⟩, rfl⟩
    exact ⟨b₁, rfl, rfl, rfl⟩
  · rintro ⟨b₁, rfl, rfl, rfl⟩
    exact ⟨(), ⟨_, rfl, rfl, b₁, rfl⟩, rfl⟩

end

/-! ## Repetitions -/

section

variable {n : Production α} {as : List α}

theorem row_of_many (h : Many n.language b ps b' as) :
    Row n ps as ∧ (b' → b ∨ n.closing) := by
  induction h with
  | nil => exact ⟨.nil, .inl⟩
  | cons first _ ih =>
    exact ⟨.cons first.1 ih.1, fun after => (ih.2 after).elim (.inr ∘ first.2) .inr⟩

theorem tail_of_many {text : String}
    (h : Many ((Phrase.symbol text *> production n).sentences language) b ps b' as) :
    Tail text n ps as ∧ (b' → b ∨ n.closing) := by
  induction h with
  | nil => exact ⟨.nil, .inl⟩
  | cons first _ ih =>
    obtain ⟨_, _, _, _, rfl, ⟨_, rfl, rfl, b₁, rfl⟩, item⟩ := sentences_seqRight.mp first
    exact ⟨.cons item.1 ih.1, fun after => (ih.2 after).elim (.inr ∘ item.2) .inr⟩

theorem tail_of_separatedBy {text : String} {x : α × List α}
    (h : (separatedBy text (production n)).sentences language b ps b' x) :
    ∃ ps₁ ps₂, ps = ps₁ ++ ps₂ ∧ Derives n ps₁ x.1 ∧ Tail text n ps₂ x.2 ∧ (b' → n.closing) := by
  obtain ⟨ps₁, ps₂, b₁, _, as, rfl, first, rest, rfl⟩ := sentences_seq.mp h
  obtain ⟨a, item, rfl⟩ := sentences_map.mp first
  obtain ⟨tail, flag⟩ := tail_of_many rest
  exact ⟨ps₁, ps₂, rfl, item.1, tail, fun after => (flag after).elim item.2 id⟩

theorem listed_of_commaRest (h : CommaRest n.language b ps b' as) {qs : List Piece} {a : α}
    (first : Derives n qs a) : Listed n (qs ++ ps) (a :: as) := by
  induction h generalizing qs a with
  | nil => exact (List.append_nil qs).symm ▸ .last first
  | trailing => exact .cons first .nil
  | cons next _ ih => exact .cons first (ih next.1)

theorem listed_of_commaList (h : CommaList n.language b ps b' as) : Listed n ps as := by
  cases h with
  | nil => exact .nil
  | cons first rest => exact listed_of_commaRest rest first.1

theorem fields_of_inLine (solid : n.closing = false) (h : InLine n.language b ps b' as)
    (unbroken : b = false) : Fields n ps as ∧ b' = false := by
  induction h with
  | nil => exact ⟨.nil, unbroken⟩
  | cons first inLine _ ih =>
    obtain ⟨fields, flag⟩ :=
      ih (Bool.eq_false_iff.mpr fun after => by simp [first.2 after] at solid)
    exact ⟨.cons first.1 (unbroken ▸ inLine) fields, flag⟩

theorem fields_of_taggedForm {build : String → List α → β} {y : β} (solid : n.closing = false)
    (h : (taggedForm n build).sentences language b ps b' y) : ∃ b₁ b₂ name qs as,
      ps = .symbol b₁ "#" :: .word b₂ name :: qs ∧ Fields n qs as ∧ b' = false ∧
        y = build name as := by
  obtain ⟨_, qs, _, _, as, rfl, head, fields, rfl⟩ := sentences_seq.mp h
  obtain ⟨name, tag, rfl⟩ := sentences_map.mp head
  obtain ⟨_, _, _, _, rfl, ⟨_, rfl, rfl, b₁, rfl⟩, _, rfl, rfl, b₂, rfl⟩ :=
    sentences_seqRight.mp tag
  obtain ⟨fields, flag⟩ := fields_of_inLine solid fields rfl
  exact ⟨b₁, b₂, name, qs, as, rfl, fields, flag, rfl⟩

theorem derives_of_pair {shorthand : String → String × α} {y : String × α}
    (h : (pair n shorthand).sentences language b ps b' y) :
    (∃ ps₁ b₁ ps₂ key x, ps = ps₁ ++ .symbol b₁ ":" :: ps₂ ∧ Derives fieldKey ps₁ key ∧
      Derives n ps₂ x ∧ (b' → n.closing) ∧ y = (key, x)) ∨
    ∃ b₁ name, ps = [.word b₁ name] ∧ name ∉ keywords ∧ b' = false ∧ y = shorthand name := by
  rcases sentences_orElse.mp h with h | h
  · obtain ⟨_, ps₂, _, _, x, rfl, head, value, rfl⟩ := sentences_seq.mp h
    obtain ⟨key, colon, rfl⟩ := sentences_map.mp head
    obtain ⟨ps₁, _, _, _, rfl, derives, _, rfl, rfl, b₁, rfl⟩ := sentences_seqLeft.mp colon
    exact .inl ⟨ps₁, b₁, ps₂, key, x, by simp, derives.1, value.1, value.2, rfl⟩
  · obtain ⟨name, ⟨_, rfl, rfl, free, b₁, rfl⟩, rfl⟩ := sentences_map.mp h
    exact .inr ⟨b₁, name, rfl, free, rfl, rfl⟩

theorem operands_of_many {n : Production Expr} (ops : List Operator)
    {choice : Phrase Production Operator} {es : List (Operator × Expr)}
    (symbols : ∀ {b ps b' op}, choice.sentences language b ps b' op →
      op ∈ ops ∧ ∃ b₁, ps = [.symbol b₁ op.symbol])
    (h : Many ((Prod.mk <$> choice <*> production n).sentences language) b ps b' es) :
    Operands ops n ps es ∧ (b' → b ∨ n.closing) := by
  induction h with
  | nil => exact ⟨.nil, .inl⟩
  | cons first _ ih =>
    obtain ⟨_, _, _, _, e, rfl, head, operand, rfl⟩ := sentences_seq.mp first
    obtain ⟨op, symbol, rfl⟩ := sentences_map.mp head
    obtain ⟨mem, b₁, rfl⟩ := symbols symbol
    exact ⟨.cons mem operand.1 ih.1, fun after => (ih.2 after).elim (.inr ∘ operand.2) .inr⟩

end

/-! ## Soundness of each production -/

theorem sound_program : Sound program := by
  intro b ps b' x h
  obtain ⟨_, _, _, _, rs, rfl, h₁, rest, rfl⟩ := sentences_seq.mp h
  obtain ⟨_, _, _, _, r, rfl, h₂, rule, rfl⟩ := sentences_seq.mp h₁
  obtain ⟨_, _, _, _, ds, rfl, h₃, declarations, rfl⟩ := sentences_seq.mp h₂
  obtain ⟨d, declaration, rfl⟩ := sentences_map.mp h₃
  obtain ⟨_, _, _, _, rfl, rules, rfl⟩ := sentences_seqLeft.mp rest
  have first := Row.cons declaration.1 (row_of_many declarations).1
  have second := Row.cons rule.1 (row_of_many rules).1
  refine ⟨?_, fun _ => rfl⟩
  simpa using Derives.program first (by simp) second (by simp)

theorem derives_keyword {text : String} {n : Production α} {g : α → β} {y : β}
    (h : (g <$> (word text *> Phrase.symbol "=" *> production n)).sentences language b ps b' y) :
    ∃ b₁ b₂ qs x, ps = .word b₁ text :: .symbol b₂ "=" :: qs ∧ n.language false qs b' x ∧
      y = g x := by
  obtain ⟨x, h₁, rfl⟩ := sentences_map.mp h
  obtain ⟨_, qs, _, _, rfl, head, h₂⟩ := sentences_seqRight.mp h₁
  obtain ⟨_, _, _, _, rfl, ⟨_, rfl, rfl, b₁, rfl⟩, _, rfl, rfl, b₂, rfl⟩ :=
    sentences_seqRight.mp head
  exact ⟨b₁, b₂, qs, x, rfl, h₂, rfl⟩

theorem sound_declaration : Sound declaration := by
  intro b ps b' x h
  rcases sentences_oneOf.mp h with h₁ | h₁
  · obtain ⟨_, _, _, _, rfl, h₂, rfl⟩ := derives_keyword h₁
    exact ⟨.states h₂.1, h₂.2⟩
  rcases sentences_oneOf.mp h₁ with h₃ | h₃
  · obtain ⟨_, _, _, _, rfl, h₄, rfl⟩ := derives_keyword h₃
    exact ⟨.actions h₄.1, h₄.2⟩
  · obtain ⟨_, _, _, _, rfl, h₅, rfl⟩ := derives_keyword h₃
    exact ⟨.start h₅.1, h₅.2⟩

theorem sound_tagPatterns : Sound tagPatterns := by
  intro b ps b' x h
  obtain ⟨_, h₁, rfl⟩ := sentences_map.mp h
  obtain ⟨_, _, rfl, first, rest, flag⟩ := tail_of_separatedBy h₁
  exact ⟨.tagPatterns first rest, flag⟩

theorem sound_rule : Sound rule := by
  intro b ps b' x h
  rcases sentences_oneOf.mp h with h₁ | h₁
  · obtain ⟨_, _, _, _, _, rfl, h₂, effect, rfl⟩ := sentences_seq.mp h₁
    obtain ⟨_, h₃, rfl⟩ := sentences_map.mp h₂
    obtain ⟨_, _, _, _, rfl, on, _, rfl, rfl, _, rfl⟩ := sentences_seqLeft.mp h₃
    exact ⟨by simpa using .reaction on.1 effect.1, effect.2⟩
  · obtain ⟨_, _, _, _, _, rfl, h₄, source, rfl⟩ := sentences_seq.mp h₁
    obtain ⟨_, h₅, rfl⟩ := sentences_map.mp h₄
    obtain ⟨_, _, _, _, rfl, dest, _, rfl, rfl, _, rfl⟩ := sentences_seqLeft.mp h₅
    exact ⟨by simpa using .extension dest.1 source.1, source.2⟩

theorem sound_orEvent : Sound orEvent := by
  intro b ps b' x h
  obtain ⟨_, h₁, rfl⟩ := sentences_map.mp h
  obtain ⟨_, _, rfl, first, rest, flag⟩ := tail_of_separatedBy h₁
  exact ⟨.orEvent first rest, flag⟩

theorem sound_condEvent : Sound condEvent := by
  intro b ps b' x h
  rcases sentences_oneOf.mp h with h₁ | h₁
  · obtain ⟨_, _, _, _, _, rfl, h₂, guard, rfl⟩ := sentences_seq.mp h₁
    obtain ⟨_, _, _, _, _, rfl, h₃, event, rfl⟩ := sentences_seq.mp h₂
    obtain ⟨_, h₄, rfl⟩ := sentences_map.mp h₃
    obtain ⟨_, _, _, _, rfl, state, _, rfl, rfl, _, rfl⟩ := sentences_seqLeft.mp h₄
    rcases sentences_optional.mp guard with ⟨_, given, rfl⟩ | ⟨rfl, rfl, rfl⟩
    · obtain ⟨_, _, _, _, rfl, ⟨_, rfl, rfl, _, rfl⟩, cond⟩ := sentences_seqRight.mp given
      refine ⟨?_, cond.2⟩
      simpa using Derives.onIf state.1 event.1 cond.1
    · exact ⟨by simpa using .on state.1 event.1, event.2⟩
  · obtain ⟨_, _, _, rfl, rfl, h₅⟩ := h₁
    exact unbroken (.eventGroup h₅.1)

theorem sound_orState : Sound orState := by
  intro b ps b' x h
  obtain ⟨_, h₁, rfl⟩ := sentences_map.mp h
  obtain ⟨_, _, rfl, first, rest, flag⟩ := tail_of_separatedBy h₁
  exact ⟨.orState first rest, flag⟩

theorem sound_andState : Sound andState := by
  intro b ps b' x h
  obtain ⟨_, _, _, _, _, rfl, h₁, conds, rfl⟩ := sentences_seq.mp h
  obtain ⟨_, h₂, rfl⟩ := sentences_map.mp h₁
  obtain ⟨tail, flag⟩ := tail_of_many conds
  rcases sentences_orElse.mp h₂ with h₃ | h₃
  · exact ⟨.stateAnd h₃.1 tail, fun after => (flag after).elim h₃.2 id⟩
  · obtain ⟨_, h₄, rfl⟩ := sentences_map.mp h₃
    exact ⟨.condAnd h₄.1 tail, fun after => (flag after).elim h₄.2 id⟩

theorem sound_state : Sound state := by
  intro b ps b' x h
  rcases sentences_oneOf.mp h with ⟨_, _, _, rfl, rfl, h₁⟩ | h₁
  · exact unbroken (.stateGroup h₁.1)
  · obtain ⟨_, h₂, rfl⟩ := sentences_map.mp h₁
    exact ⟨.stateTag h₂.1, h₂.2⟩

theorem sound_event : Sound event := by
  intro b ps b' x h
  rcases sentences_orElse.mp h with h₁ | ⟨_, _, _, ⟨⟩⟩
  obtain ⟨_, h₂, rfl⟩ := sentences_map.mp h₁
  exact ⟨.event h₂.1, h₂.2⟩

theorem sound_orCond : Sound orCond := by
  intro b ps b' x h
  obtain ⟨_, h₁, rfl⟩ := sentences_map.mp h
  obtain ⟨_, _, rfl, first, rest, flag⟩ := tail_of_separatedBy h₁
  exact ⟨.orCond first rest, flag⟩

theorem sound_andCond : Sound andCond := by
  intro b ps b' x h
  obtain ⟨_, h₁, rfl⟩ := sentences_map.mp h
  obtain ⟨_, _, rfl, first, rest, flag⟩ := tail_of_separatedBy h₁
  exact ⟨.andCond first rest, flag⟩

theorem sound_cond : Sound cond := by
  intro b ps b' x h
  rcases sentences_oneOf.mp h with ⟨_, _, _, rfl, rfl, h₁⟩ | h₁
  · exact unbroken (.condGroup h₁.1)
  rcases sentences_oneOf.mp h₁ with h₂ | h₂
  · obtain ⟨_, ⟨_, rfl, rfl, _, rfl⟩, rfl⟩ := sentences_map.mp h₂
    exact unbroken .condCall
  rcases sentences_oneOf.mp h₂ with h₃ | h₃
  · obtain ⟨_, _, _, _, _, rfl, h₄, right, rfl⟩ := sentences_seq.mp h₃
    obtain ⟨_, _, _, _, _, rfl, h₅, comparison, rfl⟩ := sentences_seq.mp h₄
    obtain ⟨_, left, rfl⟩ := sentences_map.mp h₅
    exact ⟨.compare left.1 comparison.1 right.1, right.2⟩
  · obtain ⟨_, h₆, rfl⟩ := sentences_map.mp h₃
    exact ⟨.truthy h₆.1, h₆.2⟩

theorem sound_comparison : Sound comparison := by
  intro b ps b' x h
  simp only [phrase, sentences_oneOf, sentences_oneOf_singleton, sentences_operator,
    sentences_constant] at h
  rcases h with ⟨_, rfl, rfl, rfl⟩ | ⟨_, rfl, rfl, rfl⟩ | ⟨_, rfl, rfl, rfl⟩ | ⟨_, rfl, rfl, rfl⟩ |
    ⟨_, rfl, rfl, rfl⟩ | ⟨_, rfl, rfl, rfl⟩ | ⟨_, rfl, rfl, rfl⟩ | h | h
  · exact unbroken .eq
  · exact unbroken .ne
  · exact unbroken .ge
  · exact unbroken .gt
  · exact unbroken .le
  · exact unbroken .lt
  · exact unbroken .isIn
  · obtain ⟨_, h₁, rfl⟩ := sentences_map.mp h
    obtain ⟨_, _, _, _, rfl, ⟨_, rfl, rfl, _, rfl⟩, _, rfl, rfl, _, rfl⟩ := sentences_seqRight.mp h₁
    exact unbroken .notIn
  · obtain ⟨_, h₂, rfl⟩ := sentences_map.mp h
    obtain ⟨_, _, _, _, rfl, ⟨_, rfl, rfl, _, rfl⟩, h₃⟩ := sentences_seqRight.mp h₂
    rcases sentences_optional.mp h₃ with ⟨_, ⟨_, rfl, rfl, _, rfl⟩, rfl⟩ | ⟨rfl, rfl, rfl⟩
    · exact unbroken .isNot
    · exact unbroken .is

theorem sound_orEffect : Sound orEffect := by
  intro b ps b' x h
  obtain ⟨_, h₁, rfl⟩ := sentences_map.mp h
  obtain ⟨_, _, rfl, first, rest, flag⟩ := tail_of_separatedBy h₁
  exact ⟨.orEffect first rest, flag⟩

theorem sound_condEffect : Sound condEffect := by
  intro b ps b' x h
  obtain ⟨_, _, _, _, _, rfl, h₁, guard, rfl⟩ := sentences_seq.mp h
  obtain ⟨_, effect, rfl⟩ := sentences_map.mp h₁
  rcases sentences_optional.mp guard with ⟨_, given, rfl⟩ | ⟨rfl, rfl, rfl⟩
  · obtain ⟨_, _, _, _, rfl, ⟨_, rfl, rfl, _, rfl⟩, cond⟩ := sentences_seqRight.mp given
    exact ⟨.guarded effect.1 cond.1, cond.2⟩
  · exact ⟨by simpa using .unguarded effect.1, effect.2⟩

theorem sound_andEffect : Sound andEffect := by
  intro b ps b' x h
  rcases sentences_oneOf.mp h with h₁ | h₁
  · obtain ⟨_, _, _, _, _, rfl, h₂, actions, rfl⟩ := sentences_seq.mp h₁
    obtain ⟨_, h₃, rfl⟩ := sentences_map.mp h₂
    obtain ⟨row, flag⟩ := row_of_many actions
    exact ⟨.next h₃.1 row, fun after => (flag after).elim h₃.2 id⟩
  · obtain ⟨_, _, _, _, _, rfl, h₄, actions, rfl⟩ := sentences_seq.mp h₁
    obtain ⟨_, h₅, rfl⟩ := sentences_map.mp h₄
    obtain ⟨row, flag⟩ := row_of_many actions
    exact ⟨.only h₅.1 row, fun after => (flag after).elim h₅.2 id⟩

theorem sound_joinedAction : Sound joinedAction := by
  intro b ps b' x h
  obtain ⟨_, _, _, _, rfl, ⟨_, rfl, rfl, _, rfl⟩, h₁⟩ := sentences_seqRight.mp h
  exact ⟨.joinedAction h₁.1, h₁.2⟩

theorem sound_action : Sound action := by
  intro b ps b' x h
  rcases sentences_orElse.mp h with h₁ | h₁
  · obtain ⟨_, ⟨_, _, _, rfl, rfl, h₂⟩, rfl⟩ := sentences_map.mp h₁
    exact unbroken (.nested h₂.1)
  rcases h₁ with ⟨_, _, _, _, rfl, ⟨_, rfl, rfl, _, rfl⟩, _, h₃, rfl⟩ | h₃
  · obtain ⟨_, h₄, rfl⟩ := sentences_map.mp h₃
    exact ⟨.dispatch h₄.1, h₄.2⟩
  rcases h₃ with ⟨_, _, _, _, rfl, ⟨_, rfl, rfl, _, rfl⟩, _, h₅, rfl⟩ | h₅
  · obtain ⟨_, ⟨_, rfl, rfl, _, rfl⟩, rfl⟩ := sentences_map.mp h₅
    exact unbroken .await
  rcases h₅ with ⟨_, _, _, _, rfl, ⟨_, rfl, rfl, _, rfl⟩, _, h₆, rfl⟩ | ⟨⟨⟩⟩
  obtain ⟨_, ⟨_, rfl, rfl, _, rfl⟩, rfl⟩ := sentences_map.mp h₆
  exact unbroken .exec

theorem sound_tagPattern : Sound tagPattern := by
  intro b ps b' x h
  rcases sentences_orElse.mp h with h₁ | h₁
  · obtain ⟨_, _, _, _, _, rfl, fields, rfl, rfl⟩ := fields_of_taggedForm rfl h₁
    exact unbroken (.taggedPattern fields)
  · exact ⟨.tagPattern h₁.1, h₁.2⟩

theorem sound_pattern : Sound pattern := by
  intro b ps b' x h
  rcases sentences_oneOf.mp h with h₁ | h₁
  · obtain ⟨_, ⟨_, _, _, rfl, rfl, h₂⟩, rfl⟩ := sentences_map.mp h₁
    exact unbroken (.object (listed_of_commaList h₂))
  rcases sentences_oneOf.mp h₁ with h₃ | h₃
  · obtain ⟨_, ⟨_, _, _, rfl, rfl, h₄⟩, rfl⟩ := sentences_map.mp h₃
    exact unbroken (.array (listed_of_commaList h₄))
  rcases sentences_oneOf.mp h₃ with ⟨_, _, _, rfl, rfl, h₅⟩ | h₅
  · exact unbroken (.patternGroup h₅.1)
  rcases sentences_oneOf.mp h₅ with h₆ | h₆
  · obtain ⟨_, rfl, rfl, rfl⟩ := sentences_constant.mp h₆
    exact unbroken .wildcard
  rcases sentences_oneOf.mp h₆ with h₇ | h₇
  · obtain ⟨_, h₈, rfl⟩ := sentences_map.mp h₇
    exact ⟨.literalPattern h₈.1, h₈.2⟩
  · obtain ⟨_, ⟨_, rfl, rfl, free, _, rfl⟩, rfl⟩ := sentences_map.mp h₇
    exact unbroken (.bind free)

theorem sound_patternField : Sound patternField := by
  intro b ps b' x h
  rcases derives_of_pair h with ⟨_, _, _, _, _, rfl, key, value, flag, rfl⟩ |
    ⟨_, _, rfl, free, rfl, rfl⟩
  · exact ⟨.patternField key value, flag⟩
  · exact unbroken (.bindField free)

theorem sound_tagExpr : Sound tagExpr := by
  intro b ps b' x h
  rcases sentences_orElse.mp h with h₁ | h₁
  · obtain ⟨_, _, _, _, _, rfl, fields, rfl, rfl⟩ := fields_of_taggedForm rfl h₁
    exact unbroken (.taggedExpr fields)
  · exact ⟨.tagExpr h₁.1, h₁.2⟩

theorem sound_expr : Sound expr := by
  intro b ps b' x h
  obtain ⟨_, _, _, _, es, rfl, h₁, rest, rfl⟩ := sentences_seq.mp h
  obtain ⟨_, first, rfl⟩ := sentences_map.mp h₁
  obtain ⟨operands, flag⟩ := operands_of_many [.add, .sub] (fun h₁ => by
    simp only [sentences_oneOf, sentences_oneOf_singleton, sentences_operator, sentences_fail] at h₁
    rcases h₁ with ⟨b₁, rfl, -, rfl⟩ | ⟨b₁, rfl, -, rfl⟩ | ⟨⟨⟩⟩ <;> exact ⟨by decide, b₁, rfl⟩) rest
  exact ⟨.expr first.1 operands, fun after => (flag after).elim first.2 id⟩

theorem sound_product : Sound product := by
  intro b ps b' x h
  obtain ⟨_, _, _, _, es, rfl, h₁, rest, rfl⟩ := sentences_seq.mp h
  obtain ⟨_, first, rfl⟩ := sentences_map.mp h₁
  obtain ⟨operands, flag⟩ := operands_of_many [.mul, .div, .rem] (fun h₁ => by
    simp only [sentences_oneOf, sentences_oneOf_singleton, sentences_operator, sentences_fail] at h₁
    rcases h₁ with ⟨b₁, rfl, -, rfl⟩ | ⟨b₁, rfl, -, rfl⟩ | ⟨b₁, rfl, -, rfl⟩ | ⟨⟨⟩⟩ <;>
      exact ⟨by decide, b₁, rfl⟩) rest
  exact ⟨.product first.1 operands, fun after => (flag after).elim first.2 id⟩

theorem sound_power : Sound power := by
  intro b ps b' x h
  obtain ⟨_, _, _, _, _, rfl, h₁, exponent, rfl⟩ := sentences_seq.mp h
  obtain ⟨_, base, rfl⟩ := sentences_map.mp h₁
  rcases sentences_optional.mp exponent with ⟨_, h₂, rfl⟩ | ⟨rfl, rfl, rfl⟩
  · obtain ⟨_, _, _, _, rfl, ⟨_, rfl, rfl, _, rfl⟩, power⟩ := sentences_seqRight.mp h₂
    exact ⟨.raised base.1 power.1, power.2⟩
  · exact ⟨by simpa using .power base.1, base.2⟩

theorem sound_operand : Sound operand := by
  intro b ps b' x h
  rcases sentences_oneOf.mp h with ⟨_, _, _, rfl, rfl, h₁⟩ | h₁
  · exact unbroken (.exprGroup h₁.1)
  rcases sentences_oneOf.mp h₁ with h₂ | h₂
  · obtain ⟨_, ⟨_, _, _, rfl, rfl, h₃⟩, rfl⟩ := sentences_map.mp h₂
    exact unbroken (.list (listed_of_commaList h₃))
  rcases sentences_oneOf.mp h₂ with h₄ | h₄
  · obtain ⟨_, ⟨_, _, _, rfl, rfl, h₅⟩, rfl⟩ := sentences_map.mp h₄
    exact unbroken (.record (listed_of_commaList h₅))
  rcases sentences_oneOf.mp h₄ with h₆ | h₆
  · obtain ⟨_, h₇, rfl⟩ := sentences_map.mp h₆
    exact ⟨.const h₇.1, h₇.2⟩
  rcases sentences_oneOf.mp h₆ with h₈ | h₈
  · obtain ⟨_, ⟨_, rfl, rfl, free, _, rfl⟩, rfl⟩ := sentences_map.mp h₈
    exact unbroken (.get free)
  rcases sentences_oneOf.mp h₈ with h₉ | ⟨⟨⟩⟩
  obtain ⟨_, ⟨_, rfl, rfl, _, rfl⟩, rfl⟩ := sentences_map.mp h₉
  exact unbroken .call

theorem sound_exprField : Sound exprField := by
  intro b ps b' x h
  rcases derives_of_pair h with ⟨_, _, _, _, _, rfl, key, value, flag, rfl⟩ |
    ⟨_, _, rfl, free, rfl, rfl⟩
  · exact ⟨.exprField key value, flag⟩
  · exact unbroken (.getField free)

theorem sound_literal : Sound literal := by
  intro b ps b' x h
  simp only [phrase, sentences_oneOf, sentences_oneOf_singleton, sentences_constant] at h
  rcases h with ⟨_, rfl, rfl, rfl⟩ | ⟨_, rfl, rfl, rfl⟩ | ⟨_, rfl, rfl, rfl⟩ | ⟨_, rfl, rfl, rfl⟩ |
    ⟨_, rfl, rfl, _, ⟨_, rfl, rfl⟩ | ⟨_, rfl, rfl⟩ | ⟨plain, rfl⟩⟩
  · exact unbroken .trueWord
  · exact unbroken .falseWord
  · exact unbroken .nullWord
  · exact unbroken .undefinedWord
  · exact unbroken .string
  · exact unbroken .number
  · exact unbroken (.injected plain)

theorem sound_fieldKey : Sound fieldKey := by
  intro b ps b' x h
  rcases sentences_orElse.mp h with ⟨_, rfl, rfl, free, _, rfl⟩ | ⟨_, rfl, rfl, _, rfl⟩
  · exact unbroken (.key free)
  · exact unbroken .quotedKey

theorem sound (n : Production α) : Sound n := by
  cases n with
  | program => exact sound_program
  | declaration => exact sound_declaration
  | rule => exact sound_rule
  | tagPatterns => exact sound_tagPatterns
  | orEvent => exact sound_orEvent
  | condEvent => exact sound_condEvent
  | orState => exact sound_orState
  | andState => exact sound_andState
  | state => exact sound_state
  | event => exact sound_event
  | orCond => exact sound_orCond
  | andCond => exact sound_andCond
  | cond => exact sound_cond
  | comparison => exact sound_comparison
  | orEffect => exact sound_orEffect
  | condEffect => exact sound_condEffect
  | andEffect => exact sound_andEffect
  | joinedAction => exact sound_joinedAction
  | action => exact sound_action
  | tagPattern => exact sound_tagPattern
  | pattern => exact sound_pattern
  | patternField => exact sound_patternField
  | tagExpr => exact sound_tagExpr
  | expr => exact sound_expr
  | product => exact sound_product
  | power => exact sound_power
  | operand => exact sound_operand
  | exprField => exact sound_exprField
  | literal => exact sound_literal
  | fieldKey => exact sound_fieldKey

/-- What a production is read from derives from it. -/
theorem parse_reads {ρ : Type} [Notepad ρ] (fuel : Nat) (n : Production α) :
    Parse.Reads (n.parse fuel : Parse ρ α) n.language := by
  induction fuel generalizing α with
  | zero => exact fun _ _ _ _ _ _ ok => by cases ok
  | succ fuel ih =>
    intro c f a d g valid ok b
    obtain ⟨ps, b', spans, sentence⟩ :=
      n.phrase.parse_reads (parse_goes fuel) (fun n => ih n) valid ok b
    exact ⟨ps, b', spans, n.sound sentence⟩

end Production

/-! ## Declarations come before rules -/

/-- Whether a declaration stands in the second part of a program. -/
def Declaration.isRule : Declaration → Bool
  | rule _ | extension _ => true
  | start _ | states _ | actions _ => false

/-- Declarations, at least one, and then rules, at least one. -/
def Declaration.Ordered (ds : List Declaration) : Prop :=
  ∃ declared rules, ds = declared ++ rules ∧ declared ≠ [] ∧ rules ≠ [] ∧
    (∀ d ∈ declared, d.isRule = false) ∧ ∀ d ∈ rules, d.isRule = true

/-- The part of a program that a production builds. -/
def Production.Part : {α : Type} → Production α → α → Prop
  | _, declaration, d => d.isRule = false
  | _, rule, d => d.isRule = true
  | _, _, _ => True

theorem Derives.part {α : Type} {n : Production α} {ps : List Piece} {a : α}
    (h : Derives n ps a) : n.Part a := by
  cases h with
  | states | actions | start | reaction | extension => rfl
  | _ => trivial

theorem Row.parts {α : Type} {n : Production α} {ps : List Piece} {as : List α} :
    Row n ps as → ∀ a ∈ as, n.Part a
  | .nil => nofun
  | .cons first rest => by
    intro a mem
    cases mem with
    | head => exact first.part
    | tail _ mem => exact rest.parts a mem

/-- The parts of a program in their order. -/
def Production.Whole : {α : Type} → Production α → α → Prop
  | _, program, ds => Declaration.Ordered ds
  | _, _, _ => True

theorem Derives.whole {α : Type} {n : Production α} {ps : List Piece} {a : α}
    (h : Derives n ps a) : n.Whole a := by
  cases h with
  | program declared some rules some' =>
    exact ⟨_, _, rfl, some, some', declared.parts, rules.parts⟩
  | _ => trivial

/-! ## Whole programs -/

/-- The end of the nodes. -/
def Cursor.atEnd (stop : Position) : Cursor := { nodes := [], stop }

theorem Cursor.Valid.eq_atEnd {c : Cursor} (valid : c.Valid) (all : c.nodes = []) :
    c = .atEnd c.stop := by
  rcases valid with zero | ⟨t, rest, nodes, -⟩
  · obtain ⟨nodes, split, stop⟩ := c
    cases all
    cases zero
    rfl
  · rw [all] at nodes
    cases nodes

namespace Tree

theorem nodes_of_program {ρ : Type} [Notepad ρ] {fuel : Nat} {c d : Cursor} {f g : ρ}
    {ds : List Declaration} (h : Production.program.parse fuel c f = .ok ds d g) :
    d.nodes = [] := by
  cases fuel with
  | zero => cases h
  | succ fuel =>
    obtain ⟨_, _, _, -, h⟩ := Parse.andThen_ok h
    obtain ⟨_, _, _, rules, ⟨⟩⟩ := Parse.andThen_ok h
    obtain ⟨_, _, _, -, rules⟩ := Parse.andThen_ok rules
    obtain ⟨_, _, _, all, ⟨⟩⟩ := Parse.andThen_ok rules
    exact (Parse.finish_nodes all).2

/-- If a tree is a program, its pieces, from the start to the end of its nodes with all that is in
its groups, derive from the grammar, and its declarations are what the derivation builds:
declarations, at least one, and then rules, at least one. -/
theorem program_derives {t : Tree Value} {ds : List Declaration} (h : t.program = .ok ds) :
    (∃ ps b, Spans false t.start ps b (.atEnd t.stop) ∧ Derives .program ps ds) ∧
      Declaration.Ordered ds := by
  obtain ⟨d, g, ok⟩ : ∃ d g,
      Production.program.parse t.fuel t.start ({} : Furthest) = .ok ds d g := by
    unfold program at h
    split at h
    · next d g ok =>
      cases h
      exact ⟨d, g, ok⟩
    all_goals cases h
  obtain ⟨ps, b, spans, derives, -⟩ := Production.program.parse_reads t.fuel t.start_valid ok false
  obtain ⟨valid, reaches, -⟩ := Production.program.parse_goes t.fuel t.start_valid ok
  rw [valid.eq_atEnd (nodes_of_program ok), reaches.stop_eq] at spans
  exact ⟨⟨ps, b, spans, derives⟩, derives.whole⟩

/-- A program with operators that are cut, a keyword for a tag and a comma at the end of a list. -/
theorem program_derives_pieces : ∃ t ds,
    (Template.ofText
      "start = #if n: -1\n#if n @ [e,] ->#A n: 2**n+1 &dispatch e |#B if n>=2\n#B extends _").tree
        = .ok t ∧ t.program = .ok ds ∧
      (∃ ps b, Spans false t.start ps b (.atEnd t.stop) ∧ Derives .program ps ds) ∧
      Declaration.Ordered ds := by
  obtain ⟨t, tree, parses⟩ := Template.exists_tree (P := fun t => t.program.toOption.isSome)
    (t := .ofText
      "start = #if n: -1\n#if n @ [e,] ->#A n: 2**n+1 &dispatch e |#B if n>=2\n#B extends _")
    (by decide +kernel)
  cases program : t.program with
  | ok ds => exact ⟨t, ds, tree, program, program_derives program⟩
  | error e => simp [program, Except.toOption] at parses

end Tree

end RuleMachine
