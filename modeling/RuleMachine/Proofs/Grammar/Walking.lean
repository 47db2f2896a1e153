import RuleMachine.Proofs.Grammar.Calls
import RuleMachine.Proofs.Grammar.Standing

/-!
# Walks are safe

From wherever a walker stands, a walk ends as reading the nodes that the items show does
(`Walk.Agrees`): it comes to the same value or fails with the same notes, the walker stands where
the cursor does then, and whatever it passed on the way it stood safely. This is so of every
primitive, is kept by what phrases are put together with, and so holds of all productions with
whatever fuel (`Production.walk_agrees`). A walk over the groups of a template therefore never cuts
a text where it cannot be cut nor looks up a group that is not there, goes back just to where an
alternative was begun, and comes to the program of the template (`Template.walks_safely`).
-/

namespace RuleMachine

/-! ## Symbols of one byte for each character -/

/-- Whether each character of a symbol takes one byte. -/
def Terminal.narrow {α : Type} : Terminal α → Bool
  | .symbol text => Text.Narrow text.toList
  | _ => true

/-- Whether the symbols of a phrase are of characters that take one byte each. -/
def Phrase.narrow {ν : Type → Type} : {α : Type} → Phrase ν α → Bool
  | _, .terminal x => x.narrow
  | _, .seq p q => p.narrow && q.narrow
  | _, .choose p q r => p.narrow && q.narrow && r.narrow
  | _, .many p | _, .commaList p | _, .lineList p | _, .group _ p => p.narrow
  | _, .refuse _ _ p r => p.narrow && r.narrow
  | _, .pure _ | _, .production _ | _, .fail _ | _, .finish _ => true

theorem Production.narrow_phrase {α : Type} (n : Production α) : n.phrase.narrow := by
  cases n <;> rfl

/-! ## Reading the inside of a group -/

/-- What a reader comes to, with the cursor put back. -/
def Reply.backTo {ρ α : Type} (c : Cursor) : Reply ρ α → Reply ρ α
  | .ok x _ f => .ok x c f
  | r => r

theorem Reply.cursor_of_backTo {ρ α : Type} {c d : Cursor} {r : Reply ρ α} {x : α} {f : ρ}
    (ok : r.backTo c = .ok x d f) : d = c := by
  cases r <;> cases ok
  rfl

/-- Reading the inside of a group and then passing it. -/
theorem Parse.andThen_next {ρ α β : Type} (p : Parse ρ α) (q : Parse ρ β) (inner c : Cursor)
    (f : ρ) : andThen p (fun x => andThen q fun _ _ f => .ok x c.next f) inner f =
      andThen (fun c f => (andThen p (fun x => andThen q fun _ d f => .ok x d f) inner f).backTo c)
        (fun x c f => .ok x c.next f) c f := by
  unfold andThen
  dsimp only
  cases p inner f with
  | ok x d g =>
    dsimp only
    cases q d g <;> rfl
  | mismatch | fatal | exhausted => rfl

/-! ## Walks and readers -/

namespace Walk

variable {α β : Type} {a : Arena Value} {s s' : State} {c d e : Cursor}

/-- Every walker so far stood safely, and attempts that failed left it where they were begun. -/
structure State.Tidy (a : Arena Value) (s : State) : Prop where
  path : ∀ w ∈ s.path, w.Safe a
  returns : ∀ r ∈ s.returns, r.2 = r.1

/-- The walker stands where a cursor does. -/
structure State.Stands (a : Arena Value) (s : State) (c : Cursor) : Prop extends s.Tidy a where
  walker : s.walker.Stands a c

theorem State.Stands.moveTo {w : Walker} (tidy : s.Tidy a) (stands : w.Stands a c) :
    (s.moveTo w).Stands a c := by
  refine ⟨⟨?_, tidy.returns⟩, stands⟩
  intro v mem
  rcases List.mem_cons.mp mem with rfl | mem
  · exact stands.safe
  · exact tidy.path v mem

/-- Two walkers have the same items. -/
def State.Beside (s s' : State) : Prop :=
  s'.walker.items = s.walker.items ∧ s'.walker.stop = s.walker.stop

theorem State.Beside.trans {s'' : State} (h : s.Beside s') (h' : s'.Beside s'') : s.Beside s'' :=
  ⟨h'.1.trans h.1, h'.2.trans h.2⟩

/-- A walk from `s` ends as a reader does. If it does not fail for good, the walker has its items
still. -/
inductive Meets (a : Arena Value) (s : State) : Except Halt α × State → Reply Furthest α → Prop
  | ok {x : α} {s' : State} {d : Cursor} : s'.Stands a d → s.Beside s' →
      Meets a s (.ok x, s') (.ok x d s'.notes)
  | mismatch {s' : State} {d : Cursor} : s'.Stands a d → s.Beside s' →
      Meets a s (.error .mismatch, s') (.mismatch s'.notes)
  | fatal {e : ParseError} {s' : State} : s'.Tidy a → Meets a s (.error (.fatal e), s') (.fatal e)
  | exhausted {s' : State} : s'.Tidy a → Meets a s (.error .exhausted, s') .exhausted

/-- From wherever a walker stands, a walk ends as a reader does. -/
def Agrees (a : Arena Value) (w : Walk α) (p : Parse Furthest α) : Prop :=
  ∀ ⦃s : State⦄ ⦃c : Cursor⦄, s.Stands a c → Meets a s (w.run s) (p c s.notes)

theorem Meets.after {r : Except Halt α × State} {reply : Reply Furthest α}
    (h : Meets a s' r reply) (beside : s.Beside s') : Meets a s r reply := by
  cases h with
  | ok stands beside' => exact .ok stands (beside.trans beside')
  | mismatch stands beside' => exact .mismatch stands (beside.trans beside')
  | fatal tidy => exact .fatal tidy
  | exhausted tidy => exact .exhausted tidy

/-! ### One after the other -/

theorem bind_run (w : Walk α) (k : α → Walk β) (s : State) : (w >>= k).run s =
    match w.run s with
    | (.ok x, s) => (k x).run s
    | (.error h, s) => (.error h, s) := rfl

/-- A walk that begins with one whose end is known. -/
theorem bind_of_ok {w : Walk α} {x : α} (ok : w.run s = (.ok x, s')) (k : α → Walk β) :
    (w >>= k).run s = (k x).run s' := by
  rw [bind_run, ok]

theorem here_bind (k : Walker → Walk β) (s : State) : (here >>= k).run s = (k s.walker).run s := rfl

theorem noted_bind (k : Furthest → Walk β) (s : State) : (noted >>= k).run s = (k s.notes).run s :=
  rfl

theorem moveTo_bind (w : Walker) (k : Unit → Walk β) (s : State) :
    (moveTo w >>= k).run s = (k ()).run (s.moveTo w) := rfl

theorem Agrees.pure (x : α) : Agrees a (pure x) fun c f => .ok x c f :=
  fun _ _ stands => .ok stands ⟨rfl, rfl⟩

/-- Goes on where the first part ended. -/
theorem Meets.bind {w : Walk α} {p : Parse Furthest α} {k : α → Walk β}
    {q : α → Parse Furthest β} (h : Meets a s (w.run s) (p c s.notes))
    (hk : ∀ {x s' d}, s'.Stands a d → s.Beside s' → p c s.notes = .ok x d s'.notes →
      Meets a s' ((k x).run s') (q x d s'.notes)) :
    Meets a s ((w >>= k).run s) (Parse.andThen p q c s.notes) := by
  rw [bind_run]
  unfold Parse.andThen
  generalize w.run s = r at h
  generalize p c s.notes = reply at h hk
  cases h with
  | ok stands beside => exact (hk stands beside rfl).after beside
  | mismatch stands beside => exact .mismatch stands beside
  | fatal tidy => exact .fatal tidy
  | exhausted tidy => exact .exhausted tidy

theorem Agrees.bind {w : Walk α} {p : Parse Furthest α} {k : α → Walk β}
    {q : α → Parse Furthest β} (h : Agrees a w p) (hk : ∀ x, Agrees a (k x) (q x)) :
    Agrees a (w >>= k) (Parse.andThen p q) :=
  fun _ _ stands => (h stands).bind fun stands' _ _ => hk _ stands'

/-! ### Alternatives -/

theorem attempt_run (w : Walk α) (s : State) : (attempt w).run s =
    match w.run s with
    | (.error .mismatch, s') => (.error .mismatch, { s'.moveTo (s'.walker.backTo s.walker) with
        returns := (s.walker, s'.walker.backTo s.walker) :: s'.returns })
    | r => r := rfl

theorem optional_run (w : Walk α) (s : State) : (optional w).run s =
    match (attempt w).run s with
    | (.ok x, s) => (.ok (some x), s)
    | (.error .mismatch, s) => (.ok none, s)
    | (.error h, s) => (.error h, s) := rfl

/-- Where an attempt fails, the walker is where the attempt was begun. -/
theorem attempt_mismatch {w : Walk α} (failed : w.run s = (.error .mismatch, s'))
    (stands : s.Stands a c) (left : s'.Stands a d) (beside : s.Beside s') :
    ∃ s'', (attempt w).run s = (.error .mismatch, s'') ∧ s''.walker = s.walker ∧
      s''.notes = s'.notes ∧ s''.Stands a c := by
  have back : s'.walker.backTo s.walker = s.walker := Walker.backTo_eq beside.1 beside.2
  have moved : (s'.moveTo s.walker).Stands a c := .moveTo left.toTidy stands.walker
  refine ⟨{ s'.moveTo s.walker with returns := (s.walker, s.walker) :: s'.returns }, ?_, rfl, rfl,
    ⟨moved.path, ?_⟩, stands.walker⟩
  · rw [attempt_run, failed]
    dsimp only
    rw [back]
  · intro r mem
    rcases List.mem_cons.mp mem with rfl | mem
    · rfl
    · exact left.returns r mem

/-- Goes on where the first alternative ended, or from the same place if it does not fit. -/
theorem Meets.either {w : Walk α} {p : Parse Furthest α} {k : Option α → Walk β}
    {q : α → Parse Furthest β} {r : Parse Furthest β} (stands : s.Stands a c)
    (h : Meets a s (w.run s) (p c s.notes))
    (hk : ∀ {x s' d}, s'.Stands a d → s.Beside s' → p c s.notes = .ok x d s'.notes →
      Meets a s' ((k (some x)).run s') (q x d s'.notes))
    (hr : ∀ {s'}, s'.Stands a c → Meets a s' ((k none).run s') (r c s'.notes)) :
    Meets a s ((optional w >>= k).run s) (Parse.either p q r c s.notes) := by
  rw [bind_run, optional_run]
  unfold Parse.either
  generalize run : w.run s = result at h
  generalize p c s.notes = reply at h hk
  cases h with
  | ok stands' beside =>
    rw [attempt_run, run]
    exact (hk stands' beside rfl).after beside
  | mismatch left beside =>
    obtain ⟨s'', failed, back, notes, stands''⟩ := attempt_mismatch run stands left beside
    rw [failed, ← notes]
    exact (hr stands'').after ⟨by rw [back], by rw [back]⟩
  | fatal tidy =>
    rw [attempt_run, run]
    exact .fatal tidy
  | exhausted tidy =>
    rw [attempt_run, run]
    exact .exhausted tidy

theorem Agrees.either {w : Walk α} {p : Parse Furthest α} {k : Option α → Walk β}
    {q : α → Parse Furthest β} {r : Parse Furthest β} (h : Agrees a w p)
    (hk : ∀ x, Agrees a (k (some x)) (q x)) (hr : Agrees a (k none) r) :
    Agrees a (optional w >>= k) (Parse.either p q r) :=
  fun _ _ stands => (h stands).either stands (fun stands' _ _ => hk _ stands') fun stands' =>
    hr stands'

/-! ### Walks that cannot fail -/

/-- A walk from `s` comes to a value and takes the walker to where a cursor stands; nothing is
noted. -/
def Leads (a : Arena Value) (s : State) (x : α) (d : Cursor) (r : Except Halt α × State) : Prop :=
  ∃ s', r = (.ok x, s') ∧ s'.Stands a d ∧ s.Beside s' ∧ s'.notes = s.notes

namespace Leads

variable {w : Walk α} {k : α → Walk β} {x : α} {y : β} {r : Except Halt α × State}

theorem stay (stands : s.Stands a c) (x : α) : Leads a s x c (.ok x, s) :=
  ⟨s, rfl, stands, ⟨rfl, rfl⟩, rfl⟩

theorem after (h : Leads a s' x d r) (beside : s.Beside s') (notes : s'.notes = s.notes) :
    Leads a s x d r := by
  obtain ⟨s'', run, stands, beside', notes'⟩ := h
  exact ⟨s'', run, stands, beside.trans beside', notes'.trans notes⟩

theorem bind (h : Leads a s x d (w.run s))
    (hk : ∀ {s'}, s'.Stands a d → Leads a s' y e ((k x).run s')) :
    Leads a s y e ((w >>= k).run s) := by
  obtain ⟨s', run, stands, beside, notes⟩ := h
  rw [bind_of_ok run]
  exact (hk stands).after beside notes

theorem meets (h : Leads a s x d r) : Meets a s r (.ok x d s.notes) := by
  obtain ⟨s', rfl, stands, beside, notes⟩ := h
  exact notes ▸ .ok stands beside

/-- What is read from `c` begins with a walk that cannot fail. -/
theorem andThen {p : Parse Furthest β} (h : Leads a s x d (w.run s))
    (hk : ∀ {s'}, s'.Stands a d → Meets a s' ((k x).run s') (p c s'.notes)) :
    Meets a s ((w >>= k).run s) (p c s.notes) := by
  obtain ⟨s', run, stands, beside, notes⟩ := h
  rw [bind_of_ok run, ← notes]
  exact (hk stands).after beside

end Leads

/-- The node in front is passed. -/
theorem next_leads (stands : s.Stands a c) (more : c.nodes ≠ []) :
    Leads a s () c.next (next.run s) :=
  ⟨_, rfl, .moveTo stands.toTidy (stands.walker.next more), ⟨rfl, rfl⟩, rfl⟩

theorem passLines_leads {n : Nat} (stands : s.Stands a c) (whole : c.split = 0)
    (enough : c.nodes.length ≤ n) : Leads a s () c.skipLines ((passLines n).run s) := by
  induction n generalizing s c with
  | zero =>
    have none : c.nodes = [] := List.length_eq_zero_iff.mp (Nat.le_zero.mp enough)
    rw [Cursor.skipLines_of_front (by simp [none])]
    exact .stay stands ()
  | succ n ih =>
    have front := stands.walker.front.isLine_eq
    rw [passLines, here_bind]
    by_cases line : c.nodes.head?.any (·.isLine)
    · rw [if_pos (front.trans line), moveTo_bind, Cursor.skipLines_next whole line]
      have more : c.nodes ≠ [] := by
        rintro none
        rw [none] at line
        cases line
      have moved := stands.walker.next more
      rw [← stands.walker.split.symm.trans whole] at moved
      have fewer : c.next.nodes.length ≤ n := by
        have := List.length_tail (l := c.nodes)
        simp only [Cursor.next]
        omega
      exact (ih (.moveTo stands.toTidy moved) rfl fewer).after ⟨rfl, rfl⟩ rfl
    · rw [if_neg (front ▸ line), Cursor.skipLines_of_front line]
      exact .stay stands ()

theorem skipLines_leads (stands : s.Stands a c) : Leads a s () c.skipLines (skipLines.run s) := by
  have split := stands.walker.split
  rw [skipLines, here_bind]
  by_cases whole : c.split = 0
  · rw [if_pos (split.symm.trans whole)]
    exact passLines_leads stands whole (Nat.le_of_eq stands.walker.length_eq)
  · rw [if_neg (split ▸ whole), Cursor.skipLines_of_split whole]
    exact .stay stands ()

theorem atEnd_leads (stands : s.Stands a c) :
    Leads a s c.skipLines.nodes.isEmpty c.skipLines (atEnd.run s) := by
  refine (skipLines_leads stands).bind fun {s'} stands' => ?_
  have length := stands'.walker.length_eq
  have same : decide (s'.walker.items.size ≤ s'.walker.passed) = c.skipLines.nodes.isEmpty := by
    rw [Bool.eq_iff_iff, decide_eq_true_iff, List.isEmpty_iff_length_eq_zero]
    omega
  rw [here_bind, same]
  exact .stay stands' _

theorem token?_leads (stands : s.Stands a c) :
    Leads a s c.skipLines.token? c.skipLines (token?.run s) := by
  refine (skipLines_leads stands).bind fun {s'} stands' => ?_
  have front := stands'.walker.front
  rw [here_bind]
  generalize s'.walker.item? = i, shown : c.skipLines.nodes = ns at front
  unfold Cursor.token?
  rw [shown]
  cases front with
  | nil => exact .stay stands' none
  | token t rest => exact .stay stands' (some t)
  | group rest => exact .stay stands' none

/-! ### Notes -/

/-- What is left of a text is cut off it. -/
theorem rest_run (stands : s.Stands a c) {t : Token Value} (front : c.token? = some t) :
    (rest t).run s = (.ok (c.rest t), s) := by
  obtain ⟨inside, narrow⟩ := stands.walker.narrow front
  rw [rest, here_bind, ← stands.walker.split, narrow.behind?_eq inside]
  rfl

theorem group_of_stored {n : Nat} {g : Group Value} (stored : a.groups[n]? = some g) :
    group a n = Pure.pure g := by
  rw [group, stored]

theorem position_run (stands : s.Stands a c) : (position a).run s = (.ok c.position, s) := by
  have front := stands.walker.front
  rw [position, here_bind, ← stands.walker.split, ← stands.walker.stop]
  unfold Cursor.position
  generalize s.walker.item? = i, c.nodes = ns at front
  cases front with
  | nil => rfl
  | token t rest => rfl
  | group rest stored inner =>
    dsimp only
    rw [group_of_stored stored]
    rfl

theorem describe_run (stands : s.Stands a c) : (describe a).run s = (.ok c.describe, s) := by
  have front := stands.walker.front
  rw [describe, here_bind]
  unfold Cursor.describe
  generalize s.walker.item? = i, shown : c.nodes = ns at front
  cases front with
  | nil => rfl
  | group rest stored inner =>
    dsimp only
    rw [group_of_stored stored]
    rfl
  | token t rest =>
    have left := rest_run stands (t := t) (by rw [Cursor.token?, shown])
    obtain ⟨kind, text, place⟩ := t
    cases kind with
    | line => rfl
    | literal l => cases l <;> rfl
    | ignored | identifier | punctuation | operator =>
      dsimp only
      rw [bind_of_ok left]
      rfl

theorem note_run (stands : s.Stands a c) (what : String) :
    (note a what).run s = (.ok (), { s with notes := s.notes.note c what }) := by
  have found := describe_run stands
  rw [note, bind_of_ok (position_run stands), noted_bind]
  unfold Furthest.note
  cases s.notes.place with
  | none =>
    dsimp only
    rw [bind_of_ok found]
    rfl
  | some p =>
    dsimp only
    by_cases behind : c.position.offset < p.offset
    · rw [if_pos behind, if_pos behind]
      rfl
    rw [if_neg behind, if_neg behind]
    by_cases here : p.offset = c.position.offset
    · rw [if_pos here, if_pos here]
      rfl
    · rw [if_neg here, if_neg here, bind_of_ok found]
      rfl

theorem Agrees.want (what : String) : Agrees a (want a what : Walk α) (Parse.want what) := by
  intro s c stands
  rw [Walk.want, bind_of_ok (note_run stands what)]
  exact .mismatch ⟨⟨stands.path, stands.returns⟩, stands.walker⟩ ⟨rfl, rfl⟩

/-! ### Terminals -/

theorem Agrees.symbol {text : String} (narrow : Text.Narrow text.toList) :
    Agrees a (symbol a text) (Parse.terminal (.symbol text)) := by
  intro s c stands
  refine (token?_leads stands).andThen fun {s'} stands' => ?_
  have failed := Agrees.want (α := Unit) (Parse.wanted (.symbol text)) stands'
  unfold Parse.terminal
  generalize c.skipLines = d at stands' failed
  cases front : d.token? with
  | none =>
    have other : Parse.terminal? d (.symbol text) = none := by
      simp only [Parse.terminal?, front]
      rfl
    rw [other]
    exact failed
  | some t =>
    rw [Parse.terminal?_symbol front]
    dsimp only
    by_cases symbol : t.isSymbol
    swap
    · rw [if_neg symbol, if_neg (by simp [symbol])]
      exact failed
    rw [if_pos symbol, bind_of_ok (rest_run stands' front)]
    by_cases fits : text.toList.isPrefixOf (d.rest t)
    swap
    · rw [if_neg fits, if_neg (by simp [fits])]
      exact failed
    rw [if_pos fits, if_pos (by simp [symbol, fits]), here_bind]
    obtain ⟨last, moved⟩ :=
      stands'.walker.symbol front symbol narrow (List.isPrefixOf_iff_prefix.mp fits)
    by_cases all : t.text.length ≤ d.split + text.length
    · obtain ⟨rest, nodes⟩ := Cursor.nodes_of_token? front
      rw [if_pos (last.mpr all), if_pos all]
      exact (next_leads stands' (by simp [nodes])).meets
    · rw [if_neg (mt last.mp all), if_neg all]
      exact .ok (.moveTo stands'.toTidy (moved (Nat.lt_of_not_le all))) ⟨rfl, rfl⟩

/-- A terminal that is no symbol is looked for in whole tokens. -/
theorem Agrees.whole {identifier : Bool} {x : Terminal α} (solid : x.whole) :
    Agrees a (whole a identifier x) (Parse.terminal x) := by
  intro s c stands
  rw [Walk.whole, here_bind, ← stands.walker.split]
  by_cases inside : identifier ∧ c.split ≠ 0
  · -- Within a token nothing is found either way: a token that is cut is a symbol.
    have none : c.token?.bind x.value? = none := by
      rw [Option.bind_eq_none_iff]
      intro t front
      by_contra some
      obtain ⟨v, value⟩ := Option.ne_none_iff_exists'.mp some
      exact inside.2 (stands.walker.valid.split_eq_zero front (x.not_isSymbol_of_value? value))
    unfold Parse.terminal
    rw [Parse.terminal?_eq stands.walker.valid.skipLines solid, if_pos inside,
      Cursor.skipLines_of_split inside.2, none]
    exact Agrees.want _ stands
  rw [if_neg inside]
  refine (token?_leads stands).andThen fun {s'} stands' => ?_
  have failed := Agrees.want (α := α) (Parse.wanted x) stands'
  unfold Parse.terminal
  rw [Parse.terminal?_eq stands'.walker.valid solid]
  cases front : c.skipLines.token? with
  | none => exact failed
  | some t =>
    dsimp only [Option.bind_some]
    cases value : x.value? t with
    | none => exact failed
    | some v =>
      obtain ⟨rest, nodes⟩ := Cursor.nodes_of_token? front
      exact ((next_leads stands' (by simp [nodes])).bind fun stands'' => .stay stands'' v).meets

theorem Agrees.terminal {x : Terminal α} (narrow : x.narrow) :
    Agrees a (terminal a x) (Parse.terminal x) := by
  cases x with
  | symbol text => exact .symbol (of_decide_eq_true narrow)
  | word | name | ident | quoted | number | callable | literal => exact .whole rfl

/-! ### Repetitions -/

section

variable {w : Walk α} {p : Parse Furthest α} {laps fuel : Nat}

theorem many_meets (agrees : Agrees a w p) (goes : Parse.Goes false p) (stands : s.Stands a c)
    (enough : c.steps ≤ laps) (enough' : c.steps ≤ fuel) :
    Meets a s ((many w laps).run s) (Parse.many p fuel c s.notes) := by
  induction laps generalizing fuel s c with
  | zero => exact absurd enough (Nat.not_le_of_lt c.steps_pos)
  | succ laps ih =>
    cases fuel with
    | zero => exact absurd enough' (Nat.not_le_of_lt c.steps_pos)
    | succ fuel =>
      rw [many, here_bind]
      refine (agrees stands).either stands (fun {x s' d} stands' beside ok => ?_)
        fun stands' => .ok stands' ⟨rfl, rfl⟩
      have same := stands.walker.sameAs_iff stands'.walker beside.1
      rw [here_bind]
      by_cases again : d.sameAs c
      · rw [if_pos (same.mpr again), if_pos again]
        exact .ok stands' ⟨rfl, rfl⟩
      · rw [if_neg (mt same.mp again), if_neg again]
        obtain ⟨valid, reaches, -⟩ := goes stands.walker.valid ok
        have before : c.Before d := by
          rcases reaches with rfl | before
          · exact absurd (by simp [Cursor.sameAs]) again
          · exact before
        have less := before.steps_lt stands.walker.valid valid
        exact (ih stands' (by omega) (by omega)).bind fun stands'' _ _ => .ok stands'' ⟨rfl, rfl⟩

theorem lineList_meets (agrees : Agrees a w p) (goes : Parse.Goes true p) (stands : s.Stands a c)
    (enough : c.steps ≤ laps) (enough' : c.steps ≤ fuel) :
    Meets a s ((lineList w laps).run s) (Parse.lineList p fuel c s.notes) := by
  induction laps generalizing fuel s c with
  | zero => exact absurd enough (Nat.not_le_of_lt c.steps_pos)
  | succ laps ih =>
    cases fuel with
    | zero => exact absurd enough' (Nat.not_le_of_lt c.steps_pos)
    | succ fuel =>
      rw [lineList, here_bind, stands.walker.atLineOrEnd_eq]
      unfold Parse.lineList
      by_cases stop : c.atLineOrEnd
      · rw [if_pos stop, if_pos stop]
        exact .ok stands ⟨rfl, rfl⟩
      rw [if_neg stop, if_neg stop]
      refine (agrees stands).either stands (fun {x s' d} stands' _ ok => ?_)
        fun stands' => .ok stands' ⟨rfl, rfl⟩
      obtain ⟨valid, -, before⟩ := goes stands.walker.valid ok
      have less := (before rfl).steps_lt stands.walker.valid valid
      exact (ih stands' (by omega) (by omega)).bind fun stands'' _ _ => .ok stands'' ⟨rfl, rfl⟩

theorem Agrees.comma : Agrees a (Walk.symbol a ",") (Parse.terminal (.symbol ",")) :=
  .symbol (by decide)

theorem commaRest_meets (agrees : Agrees a w p) (goes : Parse.Goes false p) (stands : s.Stands a c)
    (enough : c.steps ≤ laps) (enough' : c.steps ≤ fuel) :
    Meets a s ((commaRest a w laps).run s) (Parse.commaRest p fuel c s.notes) := by
  induction laps generalizing fuel s c with
  | zero => exact absurd enough (Nat.not_le_of_lt c.steps_pos)
  | succ laps ih =>
    cases fuel with
    | zero => exact absurd enough' (Nat.not_le_of_lt c.steps_pos)
    | succ fuel =>
      refine (Agrees.comma stands).either stands (fun {_ s' d} stands' _ comma => ?_)
        fun stands' => .ok stands' ⟨rfl, rfl⟩
      -- The comma has been passed, so that there is a lap for what follows it.
      obtain ⟨valid, -, before⟩ := Parse.Goes.terminal _ stands.walker.valid comma
      have less := (before rfl).steps_lt stands.walker.valid valid
      obtain ⟨s'', run, stands'', beside, notes⟩ := atEnd_leads stands'
      refine Meets.after ?_ beside
      dsimp only
      rw [bind_of_ok run, ← notes]
      by_cases last : d.skipLines.nodes.isEmpty
      · rw [if_pos last, if_pos last]
        exact .ok stands'' ⟨rfl, rfl⟩
      rw [if_neg last, if_neg last]
      refine (agrees stands'').bind fun {x s₃ e} stands₃ _ ok => ?_
      obtain ⟨valid', reaches, -⟩ := goes stands''.walker.valid ok
      have le := (d.skipLines_reaches.trans reaches).steps_le valid valid'
      exact (ih stands₃ (by omega) (by omega)).bind fun stands₄ _ _ => .ok stands₄ ⟨rfl, rfl⟩

theorem Agrees.commaList (agrees : Agrees a w p) (goes : Parse.Goes false p) :
    Agrees a (commaList a w) (Parse.commaList p) := by
  intro s c stands
  refine (atEnd_leads stands).andThen fun {s'} stands' => ?_
  unfold Parse.commaList
  by_cases last : c.skipLines.nodes.isEmpty
  · rw [if_pos last, if_pos last]
    exact .ok stands' ⟨rfl, rfl⟩
  rw [if_neg last, if_neg last]
  refine (agrees stands').bind fun {x s'' d} stands'' _ _ => ?_
  rw [here_bind]
  exact (commaRest_meets agrees goes stands'' stands''.walker.steps_le (Nat.le_refl _)).bind
    fun stands₃ _ _ => .ok stands₃ ⟨rfl, rfl⟩

end

/-! ### Groups -/

section

variable {w : Walk α} {p : Parse Furthest α}

theorem Agrees.finish (what : String) : Agrees a (finish a what) (Parse.finish what) := by
  intro s c stands
  refine (atEnd_leads stands).andThen fun {s'} stands' => ?_
  unfold Parse.finish
  by_cases last : c.skipLines.nodes.isEmpty
  · rw [if_pos last, if_pos last]
    exact .ok stands' ⟨rfl, rfl⟩
  · rw [if_neg last, if_neg last]
    exact Agrees.want what stands'

theorem inside_run (g : Group Value) (w : Walk α) (s : State) : (inside g w).run s =
    match w.run (s.moveTo g.front) with
    | (r, s') => (r, s'.moveTo s.walker) := rfl

/-- The inside of a group is read by a walker of its own, and the outer one stays where it is. -/
theorem inside_meets (stands : s.Stands a c) {g : Group Value} {r : Reply Furthest α}
    (h : Meets a (s.moveTo g.front) (w.run (s.moveTo g.front)) r) :
    Meets a s ((inside g w).run s) (r.backTo c) := by
  rw [inside_run]
  generalize w.run (s.moveTo g.front) = result at h
  cases h with
  | ok inner _ => exact .ok (.moveTo inner.toTidy stands.walker) ⟨rfl, rfl⟩
  | mismatch inner _ => exact .mismatch (.moveTo inner.toTidy stands.walker) ⟨rfl, rfl⟩
  | fatal tidy => exact .fatal (State.Stands.moveTo tidy stands.walker).toTidy
  | exhausted tidy => exact .exhausted (State.Stands.moveTo tidy stands.walker).toTidy

/-- The whole inside of a group is read, and then the group is passed. -/
theorem inside_next_meets (agrees : Agrees a w p) (stands : s.Stands a c) (what : String) {n : Nat}
    {opener closer : Token Value} {items : Array (Item Value)} {children rest : List (Node Value)}
    (shown : c.nodes = .group opener closer children :: rest)
    (inner : Shows a.groups n items.toList children) : Meets a s
      ((do
        let x ← inside ⟨opener, closer, items⟩ do
          let x ← w
          finish a what
          pure x
        next
        pure x : Walk α).run s)
      (Parse.andThen p (fun x => Parse.andThen (Parse.finish what) fun _ _ f => .ok x c.next f)
        { nodes := children, stop := closer.position } s.notes) := by
  have first : (s.moveTo (Group.front ⟨opener, closer, items⟩)).Stands a
      { nodes := children, stop := closer.position } :=
    .moveTo stands.toTidy (.first _ inner)
  have whole := (agrees first).bind fun {x _ _} within _ _ =>
    (Agrees.finish what within).bind (k := fun _ => pure x) (q := fun _ d f => .ok x d f)
      fun stands' _ _ => .ok stands' ⟨rfl, rfl⟩
  rw [Parse.andThen_next]
  refine (inside_meets stands whole).bind fun {x s' d} stands' _ ok => ?_
  obtain rfl := Reply.cursor_of_backTo ok
  exact ((next_leads stands' (by simp [shown])).bind fun stands'' => .stay stands'' x).meets

theorem Agrees.bracketed {b : Bracket} (agrees : Agrees a w p) :
    Agrees a (bracketed a b w) (Parse.group b p) := by
  intro s c stands
  refine (skipLines_leads stands).andThen fun {s'} stands' => ?_
  unfold Parse.group
  dsimp only
  generalize c.skipLines = d at stands'
  have failed := Agrees.want (α := α) s!"'{b.opener}'" stands'
  rw [here_bind, ← stands'.walker.split]
  by_cases whole : d.split = 0
  swap
  · -- Within a token there is no group.
    obtain ⟨t, rest, shown, -⟩ := stands'.walker.valid.resolve_left whole
    rw [if_neg whole, shown]
    exact failed
  rw [if_pos whole]
  have front := stands'.walker.front
  generalize s'.walker.item? = i at front
  generalize shown : d.nodes = ns at front
  cases front with
  | nil => exact failed
  | token t rest => exact failed
  | @group n opener closer items children rest stored inner =>
    dsimp only
    rw [group_of_stored stored, bind_of_ok rfl]
    by_cases opened : opener.text = b.opener
    · rw [if_pos opened, if_pos (by exact opened)]
      exact inside_next_meets agrees stands' _ shown inner
    · rw [if_neg opened, if_neg (by exact opened)]
      exact failed

theorem Agrees.refuse {keyword feature : String} {w : Walk Unit} {p : Parse Furthest Unit}
    {w' : Walk α} {r : Parse Furthest α} (agrees : Agrees a w p) (agrees' : Agrees a w' r) :
    Agrees a (refuse a keyword feature w w') (Parse.refuse keyword feature p r) := by
  intro s c stands
  refine (skipLines_leads stands).andThen fun {s'} stands' => ?_
  have word : Agrees a (Walk.terminal a (.word keyword)) (Parse.terminal (.word keyword)) :=
    .terminal rfl
  rw [bind_of_ok (position_run stands')]
  refine (word stands').either stands' (fun stands'' _ _ => ?_) fun stands'' => agrees' stands''
  exact (agrees stands'').bind fun stands₃ _ _ => .fatal stands₃.toTidy

end

end Walk

/-! ## Phrases and productions -/

/-- If productions are read alike, phrases are. -/
theorem Phrase.walk_agrees {a : Arena Value} {walk : {α : Type} → Production α → Walk α}
    {call : {α : Type} → Production α → Parse Furthest α}
    (agrees : ∀ {α} (n : Production α), Walk.Agrees a (walk n) (call n))
    (goes : ∀ {α} (n : Production α), Parse.Goes true (call n)) {α : Type}
    (p : Phrase Production α) (narrow : p.narrow) (lines : p.linesConsume) :
    Walk.Agrees a (p.walk a walk) (p.parse call) := by
  induction p with
  | pure x => exact .pure x
  | terminal x => exact .terminal narrow
  | production n => exact agrees n
  | fail what =>
    cases what with
    | some what => exact .want what
    | none => exact fun _ _ stands => .mismatch stands ⟨rfl, rfl⟩
  | seq p q ihp ihq =>
    simp only [Phrase.narrow, linesConsume, Bool.and_eq_true] at narrow lines
    exact (ihp narrow.1 lines.1).bind fun g => (ihq narrow.2 lines.2).bind fun x => .pure (g x)
  | choose p q r ihp ihq ihr =>
    simp only [Phrase.narrow, linesConsume, Bool.and_eq_true] at narrow lines
    exact (ihp narrow.1.1 lines.1.1).either
      (fun x => (ihq narrow.1.2 lines.1.2).bind fun g => .pure (g x)) (ihr narrow.2 lines.2)
  | many p ih =>
    intro s c stands
    exact Walk.many_meets (ih narrow lines) (p.parse_goes goes).weaken stands
      stands.walker.steps_le (Nat.le_refl _)
  | commaList p ih => exact (ih narrow lines).commaList (p.parse_goes goes).weaken
  | lineList p ih =>
    intro s c stands
    simp only [linesConsume, Bool.and_eq_true] at lines
    have takes : Parse.Goes true (p.parse call) := lines.1 ▸ p.parse_goes goes
    exact Walk.lineList_meets (ih narrow lines.2) takes stands stands.walker.steps_le
      (Nat.le_refl _)
  | group b p ih => exact (ih narrow lines).bracketed
  | refuse keyword feature p r ihp ihr =>
    simp only [Phrase.narrow, linesConsume, Bool.and_eq_true] at narrow lines
    exact (ihp narrow.1 lines.1).refuse (ihr narrow.2 lines.2)
  | finish what => exact .finish what

/-- Whatever the fuel is, a production is read alike. -/
theorem Production.walk_agrees (a : Arena Value) (fuel : Nat) {α : Type} (n : Production α) :
    Walk.Agrees a (n.walk a fuel) (n.parse fuel) := by
  induction fuel generalizing α with
  | zero => exact fun _ _ stands => .exhausted stands.toTidy
  | succ fuel ih =>
    exact n.phrase.walk_agrees ih (fun n => n.parse_goes fuel) n.narrow_phrase
      n.linesConsume_phrase

/-! ## Templates -/

namespace Walk.Meets

variable {α : Type} {a : Arena Value} {s : State} {r : Except Halt α × State}
  {reply : Reply Furthest α}

theorem tidy (h : Meets a s r reply) : r.2.Tidy a := by
  cases h with
  | ok stands | mismatch stands => exact stands.toTidy
  | fatal tidy | exhausted tidy => exact tidy

theorem calm (h : Meets a s r reply) : r.1 ≠ .error .panic := by
  cases h <;> nofun

theorem outcome_program {t : Tree Value} {r : Except Halt (List Declaration) × State}
    (h : Meets a s r (Production.program.parse t.fuel t.start {}))
    (lasts : Production.program.parse t.fuel t.start ({} : Furthest) ≠ .exhausted) :
    outcome r = some t.program := by
  unfold Tree.program
  unfold Tree.start at h lasts
  generalize Production.program.parse t.fuel _ ({} : Furthest) = reply at h lasts ⊢
  cases h with
  | ok | mismatch | fatal => rfl
  | exhausted => exact absurd rfl lasts

end Walk.Meets

namespace Arena

variable {a : Arena Value} {ds : Delimiters} {ts : List (Token Value)}

/-- The items of the outermost group show the nodes of the tree. -/
theorem shows_outermost (made : ofTokens ds ts = .ok a) :
    ∃ g, a.groups[0]? = some g ∧ Shows a.groups 0 g.items.toList a.tree.nodes := by
  obtain ⟨d, b, -, -, agree, opened, opened', rfl, read⟩ := drafted made
  have stacked := agree.stacked
  rw [opened, opened'] at stacked
  cases stacked with
  | outermost stored shown => exact ⟨_, stored, read ▸ shown⟩

/-- A walk over an arena ends as reading its tree does. -/
theorem walk_meets (made : ofTokens ds ts = .ok a) (fuel : Nat) : ∃ s, Walk.Meets a s (a.walk fuel)
    (Production.program.parse fuel a.tree.start ({} : Furthest)) := by
  obtain ⟨g, stored, shows⟩ := a.shows_outermost made
  let w : Walker := { items := g.items, stop := a.stop }
  have first : w.Stands a a.tree.start := .first a.stop shows
  have stands : Walk.State.Stands a { walker := w } a.tree.start :=
    ⟨⟨fun v mem => List.mem_singleton.mp mem ▸ first.safe, nofun⟩, first⟩
  refine ⟨{ walker := w }, ?_⟩
  rw [walk, stored]
  exact Production.program.walk_agrees a fuel stands

/-- How a walk over the groups goes. -/
structure Walked (a : Arena Value) (fuel : Nat) : Prop where
  /-- Wherever a walker is moved to, it stands safely. -/
  safe : ∀ w ∈ (a.walk fuel).2.path, w.Safe a
  /-- An attempt that fails leaves the walker as it was before. -/
  back : ∀ r ∈ (a.walk fuel).2.returns, r.2 = r.1
  /-- No text is cut where it cannot be, and no group is looked up that is not there. -/
  calm : (a.walk fuel).1 ≠ .error .panic
  /-- With enough fuel for the calls in each other, the walk comes to the program of the tree. -/
  program : 9 * a.tree.count ≤ fuel → Walk.outcome (a.walk fuel) = some a.tree.program

end Arena

namespace Template

/-- The groups of a template have its tree, and a walk over them with whatever fuel is safe. -/
theorem walks_safely {t : Template} {a : Arena Value} (assembled : t.arena = .ok a) (fuel : Nat) :
    t.tree = .ok a.tree ∧ a.Walked fuel := by
  unfold arena at assembled
  unfold tree assemble
  generalize tokenize t.segments t.values = scanned at assembled ⊢
  cases scanned with
  | error e => cases assembled
  | ok tokens =>
    have made : Arena.ofTokens brackets tokens = .ok a := assembled
    obtain ⟨s, met⟩ := Arena.walk_meets made fuel
    refine ⟨congrArg (Except.map Arena.tree) made, met.tidy.path, met.tidy.returns, met.calm, ?_⟩
    intro enough
    obtain ⟨lasts, same⟩ := a.tree.parse_lasts enough
    rw [same] at met lasts
    exact met.outcome_program lasts

/-- Operators that are written together: an alternative fails, and another one fits, within a
token. -/
theorem walks_safely_glued : ∃ (t : Template) (a : Arena Value), t.arena = .ok a ∧
    (∃ r ∈ (a.walk (9 * a.tree.count)).2.returns, 0 < r.1.split) ∧ a.tree.program.toOption.isSome ∧
    t.tree = .ok a.tree ∧ a.Walked (9 * a.tree.count) := by
  let t : Template := .ofText "start=#A\n#A@#B|#A@#C->#A"
  have found : t.arena.toOption.any fun a => a.tree.program.toOption.isSome ∧
      (a.walk (9 * a.tree.count)).2.returns.any (0 < ·.1.split) := by
    decide +kernel
  cases assembled : t.arena with
  | error e => simp [assembled, Except.toOption] at found
  | ok a =>
    rw [assembled] at found
    obtain ⟨read, within⟩ := of_decide_eq_true found
    refine ⟨t, a, assembled, ?_, read, walks_safely assembled _⟩
    simpa using within

end Template

end RuleMachine
