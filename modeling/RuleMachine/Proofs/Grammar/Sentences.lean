import RuleMachine.Proofs.Grammar.Derivation
import RuleMachine.Proofs.Grammar.Fuel

/-!
# The sentences of a phrase

The sentences of a phrase leave the order of its alternatives out (`Phrase.sentences`). Whatever a
phrase is read from is a sentence of it, with the value that was read (`Phrase.parse_reads`).
-/

namespace RuleMachine

/-- Which pieces something stands for and with which value. The flags before and after the pieces
say whether a line break has been passed since the last piece. -/
abbrev Sentences (α : Type) := Bool → List Piece → Bool → α → Prop

/-- Whether a terminal stands for a piece, with the value `x`. -/
def Terminal.Names : {α : Type} → Terminal α → Piece → (x : α) → Prop
  | _, .symbol text, p, _ => ∃ b, p = .symbol b text
  | _, .word text, p, _ => ∃ b, p = .word b text
  | _, .name, p, x => ∃ b, p = .word b x
  | _, .ident, p, x => x ∉ keywords ∧ ∃ b, p = .word b x
  | _, .quoted, p, x => ∃ b, p = .literal b (.quoted x)
  | _, .number, p, x => ∃ b, p = .literal b (.number x)
  | _, .callable, p, x => ∃ b, p = .literal b (.injected (.callable x))
  | _, .literal, p, x => ∃ b,
    (∃ s, p = .literal b (.quoted s) ∧ x = .string s) ∨
    (∃ n, p = .literal b (.number n) ∧ x = .number n) ∨
    x.callable? = none ∧ p = .literal b (.injected x)

namespace Sentences

variable {α β : Type}

def pure (a : α) : Sentences α := fun b ps b' x => ps = [] ∧ b' = b ∧ x = a

/-- A terminal is one piece. -/
def terminal (t : Terminal α) : Sentences α := fun _ ps b' x =>
  ∃ p, ps = [p] ∧ b' = false ∧ t.Names p x

def map (g : α → β) (S : Sentences α) : Sentences β := fun b ps b' y =>
  ∃ x, S b ps b' x ∧ y = g x

/-- One sentence after another; what the second may be hangs on the value of the first. -/
def andThen (S : Sentences α) (T : α → Sentences β) : Sentences β := fun b ps b' y =>
  ∃ ps₁ ps₂ b₁ x, ps = ps₁ ++ ps₂ ∧ S b ps₁ b₁ x ∧ T x b₁ ps₂ b' y

def either (S T : Sentences α) : Sentences α := fun b ps b' x => S b ps b' x ∨ T b ps b' x

/-- With line breaks before that may be passed. -/
def later (S : Sentences α) : Sentences α := fun _ ps b' x => ∃ b, S b ps b' x

inductive Many (S : Sentences α) : Sentences (List α)
  | nil {b} : Many S b [] b []
  | cons {b ps b' a qs b'' as} : S b ps b' a → Many S b' qs b'' as →
      Many S b (ps ++ qs) b'' (a :: as)

/-- As `Many`, and no item comes after a line break that has not been passed already. -/
inductive InLine (S : Sentences α) : Sentences (List α)
  | nil {b} : InLine S b [] b []
  | cons {b ps b' a qs b'' as} : S b ps b' a → (∀ p ∈ ps.head?, p.broken = b) →
      InLine S b' qs b'' as → InLine S b (ps ++ qs) b'' (a :: as)

/-- Items after the first, with commas. -/
inductive CommaRest (S : Sentences α) : Sentences (List α)
  | nil {b} : CommaRest S b [] b []
  | trailing {b b' b''} : CommaRest S b [.symbol b' ","] b'' []
  | cons {b b' b₁ b₂ b₃ ps a qs as} : S b₁ ps b₂ a → CommaRest S b₂ qs b₃ as →
      CommaRest S b (.symbol b' "," :: ps ++ qs) b₃ (a :: as)

/-- Items with commas. -/
inductive CommaList (S : Sentences α) : Sentences (List α)
  | nil {b b'} : CommaList S b [] b' []
  | cons {b b₁ b₂ b₃ ps a qs as} : S b₁ ps b₂ a → CommaRest S b₂ qs b₃ as →
      CommaList S b (ps ++ qs) b₃ (a :: as)

/-- A group is one piece. -/
def group (bracket : Bracket) (S : Sentences α) : Sentences α := fun _ ps b' x =>
  ∃ b inside b'', ps = [.group b bracket inside] ∧ b' = false ∧ S false inside b'' x

def finish : Sentences Unit := fun _ ps _ _ => ps = []

end Sentences

open Sentences in
/-- The sentences of a phrase, given those of the productions. -/
def Phrase.sentences {ν : Type → Type} (call : {α : Type} → ν α → Sentences α) :
    {α : Type} → Phrase ν α → Sentences α
  | _, .pure a => .pure a
  | _, .terminal t => .terminal t
  | _, .production n => call n
  | _, .fail _ => fun _ _ _ _ => False
  | _, .seq p q => (p.sentences call).andThen fun g => (q.sentences call).map g
  | _, .choose p q r =>
    ((p.sentences call).andThen fun a => (q.sentences call).map (· a)).either (r.sentences call)
  | _, .many p => Many (p.sentences call)
  | _, .commaList p => CommaList (p.sentences call)
  | _, .lineList p => InLine (p.sentences call)
  | _, .group bracket p => .group bracket (p.sentences call)
  | _, .refuse _ _ _ r => (r.sentences call).later
  | _, .finish _ => .finish

namespace Parse

variable {ρ α β : Type} {c d : Cursor} {S : Sentences α} {p : Parse ρ α} {strict : Bool}

/-- What `p` reads lies between the cursors before and after and is in `S`. -/
def Reads (p : Parse ρ α) (S : Sentences α) : Prop :=
  ∀ ⦃c f a d g⦄, c.Valid → p c f = .ok a d g → ∀ b, ∃ ps b', Spans b c ps b' d ∧ S b ps b' a

theorem spans_skipLines (c : Cursor) (b : Bool) : ∃ b', Spans b c [] b' c.skipLines := by
  unfold Cursor.skipLines
  split
  · next zero =>
    obtain ⟨nodes, split, stop⟩ := c
    induction nodes generalizing b with
    | nil => exact ⟨b, .done⟩
    | cons n rest ih =>
      cases line : n.isLine with
      | false => exact ⟨b, by simp [line]; exact .done⟩
      | true =>
        obtain ⟨b', spans⟩ := ih true zero
        cases n with
        | token t => exact ⟨b', by simpa [line] using .line zero rfl line spans⟩
        | group => cases line
  · exact ⟨b, .done⟩

theorem Reads.pure (a : α) : Reads (fun c (f : ρ) => .ok a c f) (.pure a) := by
  rintro c f _ _ _ valid ⟨⟩ b
  exact ⟨[], b, .done, rfl, rfl, rfl⟩

theorem Reads.andThen {q : α → Parse ρ β} {T : α → Sentences β} (goes : Goes strict p)
    (hp : Reads p S) (hq : ∀ a, Reads (q a) (T a)) : Reads (andThen p q) (S.andThen T) := by
  intro c f y d g valid ok b
  obtain ⟨a, e, f', first, second⟩ := andThen_ok ok
  obtain ⟨ps, b', spans, sentence⟩ := hp valid first b
  obtain ⟨qs, b'', spans', sentence'⟩ := hq a (goes valid first).1 second b'
  exact ⟨ps ++ qs, b'', spans.trans spans', ps, qs, b', a, rfl, sentence, sentence'⟩

theorem Reads.map (hp : Reads p S) (g : α → β) :
    Reads (Parse.andThen p fun a c f => .ok (g a) c f) (S.map g) := by
  intro c f y d h valid ok b
  obtain ⟨a, e, f', first, ⟨⟩⟩ := andThen_ok ok
  obtain ⟨ps, b', spans, sentence⟩ := hp valid first b
  exact ⟨ps, b', spans, a, sentence, rfl⟩

theorem Reads.either {q : α → Parse ρ β} {r : Parse ρ β} {T U : Sentences β}
    (both : Reads (Parse.andThen p q) T) (hr : Reads r U) : Reads (either p q r) (T.either U) := by
  intro c f y d g valid ok b
  rcases either_ok ok with ok | ⟨f', -, ok⟩
  · obtain ⟨ps, b', spans, sentence⟩ := both valid ok b
    exact ⟨ps, b', spans, .inl sentence⟩
  · obtain ⟨ps, b', spans, sentence⟩ := hr valid ok b
    exact ⟨ps, b', spans, .inr sentence⟩

theorem Reads.skipLines (hp : Reads p S) : Reads (fun c => p c.skipLines) S.later := by
  intro c f a d g valid ok b
  obtain ⟨b₁, skipped⟩ := spans_skipLines c b
  obtain ⟨ps, b', spans, sentence⟩ := hp valid.skipLines ok b₁
  exact ⟨ps, b', skipped.trans spans, b₁, sentence⟩

theorem Reads.many (goes : Goes strict p) (hp : Reads p S) (fuel : Nat) :
    Reads (many p fuel) (.Many S) := by
  induction fuel with
  | zero =>
    rintro c f _ _ _ valid ⟨⟩ b
    exact ⟨[], b, .done, .nil⟩
  | succ fuel ih =>
    intro c f as d g valid ok b
    rcases either_ok ok with ok | ⟨f', -, ⟨⟩⟩
    · obtain ⟨a, e, f', first, ok⟩ := andThen_ok ok
      obtain ⟨ps, b', spans, sentence⟩ := hp valid first b
      split at ok
      · cases ok
        exact ⟨ps ++ [], b', by simpa using spans, .cons sentence .nil⟩
      · obtain ⟨as', e', f'', rest, ⟨⟩⟩ := andThen_ok ok
        obtain ⟨qs, b'', spans', sentences⟩ := ih (goes valid first).1 rest b'
        exact ⟨ps ++ qs, b'', spans.trans spans', .cons sentence sentences⟩
    · exact ⟨[], b, .done, .nil⟩

theorem Reads.lineList (goes : Goes strict p) (hp : Reads p S) (fuel : Nat) :
    Reads (lineList p fuel) (.InLine S) := by
  induction fuel with
  | zero =>
    rintro c f _ _ _ valid ⟨⟩ b
    exact ⟨[], b, .done, .nil⟩
  | succ fuel ih =>
    intro c f as d g valid ok b
    simp only [Parse.lineList] at ok
    split at ok
    · cases ok
      exact ⟨[], b, .done, .nil⟩
    next inLine =>
    rcases either_ok ok with ok | ⟨f', -, ⟨⟩⟩
    · obtain ⟨a, e, f', first, ok⟩ := andThen_ok ok
      obtain ⟨as', e', f'', rest, ⟨⟩⟩ := andThen_ok ok
      obtain ⟨ps, b', spans, sentence⟩ := hp valid first b
      obtain ⟨qs, b'', spans', sentences⟩ := ih (goes valid first).1 rest b'
      refine ⟨ps ++ qs, b'', spans.trans spans', .cons sentence (fun p head => ?_) sentences⟩
      obtain ⟨ps', rfl⟩ := List.head?_eq_some_iff.mp head
      exact spans.broken_head (by simpa using inLine)
    · exact ⟨[], b, .done, .nil⟩

/-- A terminal takes one piece. -/
theorem terminal?_spans (valid : c.Valid) {t : Terminal α} {a : α}
    (h : terminal? c t = some (a, d)) (b : Bool) :
    ∃ p, Spans b c [p] false d ∧ t.Names p a := by
  by_cases whole : t.whole
  · rw [terminal?_eq valid whole] at h
    obtain ⟨a', value, same⟩ := Option.map_eq_some_iff.mp h
    obtain ⟨rfl, rfl⟩ := Prod.mk.inj same
    obtain ⟨k, front, value⟩ := Option.bind_eq_some_iff.mp value
    obtain ⟨rest, nodes⟩ := Cursor.nodes_of_token? front
    have unsplit := valid.split_eq_zero front (t.not_isSymbol_of_value? value)
    have word {text : String} (is : k.identifier? = some text) :
        Spans b c [.word b text] false c.next := .word unsplit nodes is .done
    have literal {v : Literal Value} (is : k.literal? = some v) :
        Spans b c [.literal b v] false c.next := .literal unsplit nodes is .done
    cases t with
    | symbol => cases whole
    | word text =>
      simp only [Terminal.value?, Option.ite_none_right_eq_some] at value
      exact ⟨_, word value.1, b, rfl⟩
    | name => exact ⟨_, word value, b, rfl⟩
    | ident =>
      obtain ⟨is, free⟩ := Option.filter_eq_some_iff.mp value
      exact ⟨_, word is, by simpa using free, b, rfl⟩
    | quoted =>
      simp only [Terminal.value?] at value
      split at value
      · next s is => cases value; exact ⟨_, literal is, b, rfl⟩
      · cases value
    | number =>
      simp only [Terminal.value?] at value
      split at value
      · next n is => cases value; exact ⟨_, literal is, b, rfl⟩
      · cases value
    | callable =>
      simp only [Terminal.value?] at value
      split at value
      · next f is => cases value; exact ⟨_, literal is, b, rfl⟩
      · cases value
    | literal =>
      simp only [Terminal.value?] at value
      split at value
      · next s is => cases value; exact ⟨_, literal is, b, .inl ⟨s, rfl, rfl⟩⟩
      · next n is => cases value; exact ⟨_, literal is, b, .inr (.inl ⟨n, rfl, rfl⟩)⟩
      · cases value
      · cases value
      · next v plain is =>
        cases value
        refine ⟨_, literal is, b, .inr (.inr ⟨?_, rfl⟩)⟩
        cases a' with
        | callable f => exact absurd rfl (plain f)
        | _ => rfl
  · cases t with
    | symbol text =>
      simp only [terminal?, Option.bind_eq_bind, Option.bind_eq_some_iff] at h
      obtain ⟨k, front, h⟩ := h
      obtain ⟨rest, nodes⟩ := Cursor.nodes_of_token? front
      split at h
      · next fits =>
        obtain ⟨-, rfl⟩ := Prod.mk.inj (Option.some.inj h)
        obtain ⟨symbol, text_fits⟩ := Bool.and_eq_true_iff.mp fits
        exact ⟨_, .symbol nodes symbol (List.isPrefixOf_iff_prefix.mp text_fits) .done, b, rfl⟩
      · cases h
    | _ => exact absurd rfl whole

variable [Notepad ρ]

theorem Reads.terminal (t : Terminal α) : Reads (terminal t : Parse ρ α) (.terminal t) := by
  intro c f a d g valid ok b
  unfold Parse.terminal at ok
  split at ok
  · next a' d' taken =>
    cases ok
    obtain ⟨b₁, skipped⟩ := spans_skipLines c b
    obtain ⟨p, spans, terminal⟩ := terminal?_spans valid.skipLines taken b₁
    exact ⟨[p], false, skipped.trans spans, p, rfl, rfl, terminal⟩
  · cases ok

theorem Reads.commaRest (goes : Goes strict p) (hp : Reads p S) (fuel : Nat) :
    Reads (commaRest p fuel) (.CommaRest S) := by
  induction fuel with
  | zero =>
    rintro c f _ _ _ valid ⟨⟩ b
    exact ⟨[], b, .done, .nil⟩
  | succ fuel ih =>
    intro c f as d g valid ok b
    rcases either_ok ok with ok | ⟨f', -, ⟨⟩⟩
    · obtain ⟨_, e, f', first, ok⟩ := andThen_ok ok
      obtain ⟨_, _, spans, comma, rfl, rfl, b', rfl⟩ := Reads.terminal _ valid first b
      have valid' := (Goes.terminal _ valid first).1
      obtain ⟨b₂, skipped⟩ := spans_skipLines e false
      split at ok
      · cases ok
        exact ⟨_, b₂, spans.trans skipped, .trailing⟩
      · obtain ⟨a, e₂, f₂, item, ok⟩ := andThen_ok ok
        obtain ⟨as', e₃, f₃, rest, ⟨⟩⟩ := andThen_ok ok
        obtain ⟨ps, b₃, spans', sentence⟩ := hp valid'.skipLines item b₂
        obtain ⟨qs, b₄, spans'', sentences⟩ := ih (goes valid'.skipLines item).1 rest b₃
        exact ⟨_, b₄, (spans.trans (skipped.trans spans')).trans spans'', .cons sentence sentences⟩
    · exact ⟨[], b, .done, .nil⟩

theorem Reads.commaList (goes : Goes strict p) (hp : Reads p S) :
    Reads (commaList p) (.CommaList S) := by
  intro c f as d g valid ok b
  obtain ⟨b₁, skipped⟩ := spans_skipLines c b
  unfold Parse.commaList at ok
  split at ok
  · cases ok
    exact ⟨[], b₁, skipped, .nil⟩
  · obtain ⟨a, e, f', first, ok⟩ := andThen_ok ok
    obtain ⟨as', e', f'', rest, ⟨⟩⟩ := andThen_ok ok
    obtain ⟨ps, b₂, spans, sentence⟩ := hp valid.skipLines first b₁
    obtain ⟨qs, b₃, spans', sentences⟩ :=
      hp.commaRest goes e.steps (goes valid.skipLines first).1 rest b₂
    exact ⟨_, b₃, (skipped.trans spans).trans spans', .cons sentence sentences⟩

theorem finish_nodes {what : String} {f g : ρ} (h : finish what c f = .ok () d g) :
    d = c.skipLines ∧ d.nodes = [] := by
  unfold Parse.finish at h
  split at h
  · next empty =>
    cases h
    exact ⟨rfl, List.isEmpty_iff.mp empty⟩
  · cases h

theorem Reads.finish (what : String) : Reads (finish what : Parse ρ Unit) .finish := by
  intro c f _ d g valid ok b
  obtain ⟨rfl, -⟩ := finish_nodes ok
  obtain ⟨b', skipped⟩ := spans_skipLines c b
  exact ⟨[], b', skipped, rfl⟩

theorem Reads.group (bracket : Bracket) (hp : Reads p S) :
    Reads (group bracket p) (.group bracket S) := by
  intro c f a d g valid ok b
  obtain ⟨b₁, skipped⟩ := spans_skipLines c b
  simp only [Parse.group] at ok
  split at ok
  · next opener closer children rest nodes =>
    split at ok
    · next same =>
      obtain ⟨a', e, f', inside, ok⟩ := andThen_ok ok
      obtain ⟨_, e', f'', all, ⟨⟩⟩ := andThen_ok ok
      obtain ⟨rfl, all⟩ := finish_nodes all
      obtain ⟨ps, b₂, spans, sentence⟩ := hp (.inl rfl) inside false
      obtain ⟨b₃, skipped'⟩ := spans_skipLines e b₂
      have whole := spans.trans skipped'
      rw [List.append_nil] at whole
      have piece : Spans b₁ c.skipLines [.group b₁ bracket ps] false c.skipLines.next :=
        .group (valid.skipLines.split_eq_zero_of_group nodes) nodes same whole all .done
      exact ⟨_, false, skipped.trans piece, b₁, ps, b₂, rfl, rfl, sentence⟩
    · cases ok
  · cases ok

theorem Reads.refuse (keyword feature : String) (p : Parse ρ Unit) {r : Parse ρ α}
    {S : Sentences α} (hr : Reads r S) : Reads (refuse keyword feature p r) S.later := by
  intro c f a d g valid ok b
  simp only [Parse.refuse] at ok
  rcases either_ok ok with refused | ⟨f', -, other⟩
  · obtain ⟨-, e, f', -, refused⟩ := andThen_ok refused
    obtain ⟨-, -, -, -, ⟨⟩⟩ := andThen_ok refused
  · exact hr.skipLines valid other b

end Parse

/-- Whatever a phrase is read from is a sentence of it. -/
theorem Phrase.parse_reads {ρ : Type} [Notepad ρ] {ν : Type → Type}
    {call : {α : Type} → ν α → Parse ρ α} {language : {α : Type} → ν α → Sentences α}
    (goes : ∀ {α} (n : ν α), Parse.Goes true (call n))
    (h : ∀ {α} (n : ν α), Parse.Reads (call n) (language n)) {α : Type} (p : Phrase ν α) :
    Parse.Reads (p.parse call) (p.sentences language) := by
  have goes {α : Type} (p : Phrase ν α) := p.parse_goes goes
  induction p with
  | pure a => exact .pure a
  | terminal x => exact .terminal x
  | production n => exact h n
  | fail what => cases what <;> exact fun _ _ _ _ _ _ ok => by cases ok
  | seq p q ihp ihq => exact ihp.andThen (goes p) fun g => ihq.map g
  | choose p q r ihp ihq ihr =>
    exact .either (ihp.andThen (goes p) fun a => ihq.map (· a)) ihr
  | many p ih => exact fun c _ _ _ _ valid ok => ih.many (goes p) c.steps valid ok
  | commaList p ih => exact ih.commaList (goes p)
  | lineList p ih => exact fun c _ _ _ _ valid ok => ih.lineList (goes p) c.steps valid ok
  | group b p ih => exact ih.group b
  | refuse keyword feature p r ihp ihr => exact ihr.refuse keyword feature _
  | finish what => exact .finish what

end RuleMachine
