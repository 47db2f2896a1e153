import RuleMachine.Proofs.Grammar.Plain

/-!
# Whole tokens

A symbol may be read in pieces, so reading may stop inside a token. Whatever a production other than
a comparison describes ends with a whole token or a group, though (`Phrase.ends`), so that its
reading stops before a node (`Production.read_unsplit`).
-/

namespace RuleMachine

namespace Cursor

theorem skipLines_split (c : Cursor) : c.skipLines.split = 0 ∨ c.skipLines = c := by
  unfold skipLines
  split
  next unsplit => exact .inl unsplit
  · exact .inr rfl

end Cursor

namespace Parse

variable {ρ α β : Type}

/-- Reading stops before a node, or where it began. -/
def Ends (p : Parse ρ α) : Prop :=
  ∀ ⦃c f a d g⦄, c.Valid → p c f = .ok a d g → d.split = 0 ∨ d = c

theorem Ends.pure (a : α) : Ends fun c (f : ρ) => .ok a c f := by
  rintro c f a d g - ⟨⟩
  exact .inr rfl

/-- What comes last counts, and what comes before it if that takes nothing. -/
theorem Ends.andThen {p : Parse ρ α} {q : α → Parse ρ β} {s t : Bool} (gp : Goes s p)
    (gq : ∀ a, Goes t (q a)) (hp : t = false → Ends p) (hq : ∀ a, Ends (q a)) :
    Ends (andThen p q) := by
  intro c f b d g valid ok
  obtain ⟨a, e, f', first, second⟩ := andThen_ok ok
  have valid' := (gp valid first).1
  rcases hq a valid' second with unsplit | rfl
  · exact .inl unsplit
  · cases t with
    | true => exact absurd ((gq a valid' second).2.2 rfl).not_sameAs (by simp [Cursor.sameAs])
    | false => exact hp rfl valid first

theorem Ends.either {p : Parse ρ α} {q : α → Parse ρ β} {r : Parse ρ β}
    (both : Ends (Parse.andThen p q)) (hr : Ends r) : Ends (either p q r) := by
  intro c f b d g valid ok
  rcases either_ok ok with taken | ⟨f', -, other⟩
  · exact both valid taken
  · exact hr valid other

theorem Ends.ite {p q : Parse ρ α} (b : Cursor → Bool) (hp : Ends p) (hq : Ends q) :
    Ends fun c f => if b c then p c f else q c f := by
  intro c f a d g valid ok
  dsimp only at ok
  split at ok
  · exact hp valid ok
  · exact hq valid ok

theorem Ends.skipLines {p : Parse ρ α} (h : Ends p) : Ends fun c => p c.skipLines := by
  intro c f a d g valid ok
  rcases h valid.skipLines ok with unsplit | rfl
  · exact .inl unsplit
  · exact c.skipLines_split

theorem Ends.many {p : Parse ρ α} {s : Bool} (goes : Goes s p) (h : Ends p) (fuel : Nat) :
    Ends (many p fuel) := by
  induction fuel with
  | zero => exact .pure []
  | succ fuel ih =>
    intro c f as d g valid ok
    have more (a : α) : Goes false fun d f => if d.sameAs c then .ok [a] d f
        else Parse.andThen (Parse.many p fuel) (fun as d f => .ok (a :: as) d f) d f :=
      .ite (·.sameAs c) (.pure [a]) ((goes.many fuel).andThen fun as => .pure (a :: as))
    have both := Ends.andThen goes more (fun _ => h) fun a =>
      .ite (·.sameAs c) (.pure [a]) (.andThen (goes.many fuel) (fun as => .pure (a :: as))
        (fun _ => ih) fun as => .pure (a :: as))
    exact both.either (.pure []) valid ok

theorem Ends.lineList {p : Parse ρ α} {s : Bool} (goes : Goes s p) (h : Ends p) (fuel : Nat) :
    Ends (lineList p fuel) := by
  induction fuel with
  | zero => exact .pure []
  | succ fuel ih =>
    have rest (a : α) :
        Ends (Parse.andThen (Parse.lineList p fuel) fun as c f => .ok (a :: as) c f) :=
      .andThen (goes.lineList fuel) (fun as => .pure (a :: as)) (fun _ => ih) fun as =>
        .pure (a :: as)
    have both := Ends.andThen goes
      (fun a => (goes.lineList fuel).andThen fun as => .pure (a :: as)) (fun _ => h) rest
    exact .ite (·.atLineOrEnd) (.pure []) (both.either (.pure []))

variable [Notepad ρ]

theorem Ends.terminal {x : Terminal α} (whole : x.whole) : Ends (terminal x : Parse ρ α) := by
  intro c f a d g valid ok
  rw [Parse.terminal, terminal?_eq valid.skipLines whole] at ok
  cases value : c.skipLines.token?.bind x.value? with
  | none => rw [value] at ok; cases ok
  | some => rw [value] at ok; cases ok; exact .inl rfl

theorem Ends.group (b : Bracket) (p : Parse ρ α) : Ends (group b p) := by
  intro c f a d g _ ok
  rw [Parse.group] at ok
  split at ok
  · split at ok
    · obtain ⟨_, _, _, -, closed⟩ := andThen_ok ok
      obtain ⟨_, _, _, -, rest⟩ := andThen_ok closed
      cases rest
      exact .inl rfl
    · cases ok
  · cases ok

theorem Ends.refuse (keyword feature : String) (p : Parse ρ Unit) {r : Parse ρ α} (h : Ends r) :
    Ends (refuse keyword feature p r) := by
  intro c f a d g valid ok
  rcases either_ok ok with taken | ⟨_, -, other⟩
  · obtain ⟨_, _, _, -, second⟩ := andThen_ok taken
    obtain ⟨_, _, _, -, refused⟩ := andThen_ok second
    cases refused
  · exact h.skipLines valid other

end Parse

/-- Whether whatever a phrase describes ends with a whole token or a group. -/
def Phrase.ends {ν : Type → Type} (some : {α : Type} → ν α → Bool) :
    {α : Type} → Phrase ν α → Bool
  | _, .terminal x => x.whole
  | _, .production n => some n
  | _, .seq p q => q.ends some && (q.consumes || p.ends some)
  | _, .choose p q r => q.ends some && (q.consumes || p.ends some) && r.ends some
  | _, .many p | _, .lineList p => p.ends some
  | _, .refuse _ _ _ r => r.ends some
  | _, .commaList _ => false
  | _, .pure _ | _, .fail _ | _, .group _ _ | _, .finish _ => true

theorem Phrase.parse_ends {ρ : Type} [Notepad ρ] {ν : Type → Type}
    {call : {α : Type} → ν α → Parse ρ α} {some : {α : Type} → ν α → Bool}
    (goes : ∀ {α} (n : ν α), Parse.Goes true (call n))
    (hcall : ∀ {α} (n : ν α), some n → Parse.Ends (call n)) {α : Type} (p : Phrase ν α)
    (h : p.ends some) : Parse.Ends (p.parse call) := by
  have both {α β γ : Type} {p : Parse ρ α} {q : Parse ρ β} {s t : Bool} (gp : Parse.Goes s p)
      (gq : Parse.Goes t q) (hp : t = false → p.Ends) (hq : q.Ends) (g : α → β → γ) :
      Parse.Ends (p.andThen fun a => q.andThen fun b c f => .ok (g a b) c f) :=
    .andThen gp (fun a => gq.andThen fun b => .pure (g a b)) (by simpa using hp) fun a =>
      .andThen gq (fun b => .pure (g a b)) (fun _ => hq) fun b => .pure (g a b)
  induction p with
  | pure a => exact .pure a
  | terminal x => exact .terminal h
  | production n => exact hcall n h
  | fail what =>
    cases what with
    | some what => exact fun _ _ _ _ _ _ ok => by cases ok
    | none => exact fun _ _ _ _ _ _ ok => by cases ok
  | seq p q ihp ihq =>
    obtain ⟨hq, front⟩ := Bool.and_eq_true_iff.mp h
    exact both (p.parse_goes goes) (q.parse_goes goes)
      (fun solid => ihp (by simpa [solid] using front)) (ihq hq) fun g a => g a
  | choose p q r ihp ihq ihr =>
    obtain ⟨h, hr⟩ := Bool.and_eq_true_iff.mp h
    obtain ⟨hq, front⟩ := Bool.and_eq_true_iff.mp h
    exact .either (both (p.parse_goes goes) (q.parse_goes goes)
      (fun solid => ihp (by simpa [solid] using front)) (ihq hq) fun a g => g a) (ihr hr)
  | many p ih => exact fun c _ _ _ _ valid ok => (ih h).many (p.parse_goes goes) c.steps valid ok
  | commaList => cases h
  | lineList p ih =>
    exact fun c _ _ _ _ valid ok => (ih h).lineList (p.parse_goes goes) c.steps valid ok
  | group b p _ => exact .group b _
  | refuse keyword feature p r _ ihr => exact .refuse keyword feature _ (ihr h)
  | finish what =>
    exact .skipLines (.ite (·.nodes.isEmpty) (.pure ()) fun _ _ _ _ _ _ ok => by cases ok)

namespace Production

/-- Every production but a comparison ends with a whole token or a group. -/
def ends : {α : Type} → Production α → Bool
  | _, comparison => false
  | _, _ => true

theorem ends_phrase {α : Type} (n : Production α) (h : n.ends) : n.phrase.ends ends := by
  cases n <;> first | rfl | cases h

theorem parse_ends {ρ : Type} [Notepad ρ] (fuel : Nat) {α : Type} (n : Production α)
    (h : n.ends) : Parse.Ends (n.parse fuel : Parse ρ α) := by
  induction fuel generalizing α with
  | zero => exact fun _ _ _ _ _ _ ok => by cases ok
  | succ fuel ih =>
    exact n.phrase.parse_ends (fun n => n.parse_goes fuel) (fun n => ih n) (n.ends_phrase h)

/-- Reading a production stops before a node. -/
theorem read_unsplit {α : Type} (n : Production α) (h : n.ends) {c d : Cursor} (valid : c.Valid)
    {a : α} (ok : n.read c () = .ok a d ()) : d.split = 0 := by
  rcases n.parse_ends _ h valid ok with unsplit | rfl
  · exact unsplit
  · exact absurd ((n.read_goes valid ok).2.2 rfl).not_sameAs (by simp [Cursor.sameAs])

end Production

end RuleMachine
