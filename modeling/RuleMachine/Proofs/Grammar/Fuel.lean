import RuleMachine.Proofs.Grammar.Progress

/-!
# Fuel does not matter

Productions are read with fuel for those that are nested in each other. No production comes first
in itself (`Production.rank`), and each takes something, so a bound on the nesting is known in
advance: with fuel above it reading is never cut off (`Production.parse_lasts`). More fuel changes
no reply (`Phrase.parse_follows`), and neither does what notes are made on. So productions can be
read without fuel (`Production.read`), by their phrases alone (`Production.read_eq`).
-/

namespace RuleMachine

/-- Above every production that may come first in it. -/
def Production.rank : {α : Type} → Production α → Nat
  | _, declaration | _, comparison | _, joinedAction | _, action | _, literal | _, fieldKey => 0
  | _, program | _, pattern | _, patternField | _, exprField | _, operand => 1
  | _, tagPattern | _, power => 2
  | _, tagPatterns | _, state | _, event | _, product => 3
  | _, condEvent | _, expr => 4
  | _, orEvent | _, tagExpr | _, cond => 5
  | _, andState | _, andCond | _, andEffect | _, rule => 6
  | _, orState | _, orCond | _, condEffect => 7
  | _, orEffect => 8

/-- Above the ranks of all productions that may be read before anything is taken. -/
def Phrase.front {ν : Type → Type} (rank : {α : Type} → ν α → Nat) :
    {α : Type} → Phrase ν α → Nat
  | _, .production n => rank n + 1
  | _, .seq p q => max (p.front rank) (if p.consumes then 0 else q.front rank)
  | _, .choose p q r =>
    max (max (p.front rank) (if p.consumes then 0 else q.front rank)) (r.front rank)
  | _, .many p | _, .commaList p | _, .lineList p => p.front rank
  | _, .refuse _ _ _ r => r.front rank
  | _, .pure _ | _, .terminal _ | _, .fail _ | _, .group _ _ | _, .finish _ => 0

theorem Production.front_phrase {α : Type} (n : Production α) :
    n.phrase.front rank ≤ n.rank := by
  cases n <;> decide

theorem Production.rank_lt {α : Type} (n : Production α) : n.rank < 32 := by
  cases n <;> decide

namespace Parse

variable {ρ α β : Type} {c d : Cursor}

/-- Reading from `c` is not cut off for want of fuel. -/
def LastsAt (p : Parse ρ α) (c : Cursor) : Prop := ∀ f, p c f ≠ .exhausted

theorem LastsAt.pure (a : α) : LastsAt (fun c (f : ρ) => .ok a c f) c := fun _ => nofun

theorem LastsAt.andThen {p : Parse ρ α} {q : α → Parse ρ β} (hp : LastsAt p c)
    (hq : ∀ a d f g, p c f = .ok a d g → LastsAt (q a) d) : LastsAt (andThen p q) c := by
  intro f
  unfold Parse.andThen
  split
  · next a d g first => exact hq a d f g first g
  · nofun
  · nofun
  · next cut => exact absurd cut (hp f)

theorem LastsAt.either {p : Parse ρ α} {q : α → Parse ρ β} {r : Parse ρ β} (hp : LastsAt p c)
    (hq : ∀ a d f g, p c f = .ok a d g → LastsAt (q a) d) (hr : LastsAt r c) :
    LastsAt (either p q r) c := by
  intro f
  unfold Parse.either
  split
  · next a d g first => exact hq a d f g first g
  · next g _ => exact hr g
  · nofun
  · next cut => exact absurd cut (hp f)

theorem LastsAt.ite {p q : Parse ρ α} (b : Cursor → Bool) (hp : LastsAt p c) (hq : LastsAt q c) :
    LastsAt (fun c f => if b c then p c f else q c f) c := by
  intro f
  dsimp only
  split
  · exact hp f
  · exact hq f

/-- Reading is not cut off from any cursor that is reached from `c`. -/
def LastsFrom (p : Parse ρ α) (c : Cursor) : Prop := ∀ d, d.Valid → c.Reaches d → LastsAt p d

variable {p : Parse ρ α} {strict : Bool}

theorem LastsFrom.later (h : LastsFrom p c) (reached : c.Reaches d) : LastsFrom p d :=
  fun e valid reached' => h e valid (reached.trans reached')

theorem LastsFrom.many (h : LastsFrom p c) (goes : Goes strict p) (valid : c.Valid) (fuel : Nat) :
    LastsAt (many p fuel) c := by
  induction fuel generalizing c with
  | zero => exact .pure []
  | succ fuel ih =>
    intro f
    refine LastsAt.either (h c valid (.refl c)) (fun a d f g first => ?_) (.pure []) f
    obtain ⟨valid', reached, -⟩ := goes valid first
    exact .ite (·.sameAs c) (.pure [a])
      ((ih (h.later reached) valid').andThen fun _ _ _ _ _ => .pure _)

theorem LastsFrom.lineList (h : LastsFrom p c) (goes : Goes strict p) (valid : c.Valid)
    (fuel : Nat) : LastsAt (lineList p fuel) c := by
  induction fuel generalizing c with
  | zero => exact .pure []
  | succ fuel ih =>
    refine .ite (·.atLineOrEnd) (.pure []) (.either (h c valid (.refl c)) ?_ (.pure []))
    intro a d f g first
    obtain ⟨valid', reached, -⟩ := goes valid first
    exact (ih (h.later reached) valid').andThen fun _ _ _ _ _ => .pure _

variable [Notepad ρ]

theorem LastsAt.want (what : String) (c : Cursor) : LastsAt (want what : Parse ρ α) c :=
  fun _ => nofun

theorem LastsAt.terminal (x : Terminal α) : LastsAt (terminal x : Parse ρ α) c := by
  intro f
  unfold Parse.terminal
  split
  · nofun
  · nofun

theorem LastsFrom.commaRest (h : LastsFrom p c) (goes : Goes strict p) (valid : c.Valid)
    (fuel : Nat) : LastsAt (commaRest p fuel) c := by
  induction fuel generalizing c with
  | zero => exact .pure []
  | succ fuel ih =>
    refine .either (.terminal _) (fun _ d f g first => ?_) (.pure [])
    obtain ⟨valid', reached, -⟩ := Goes.terminal _ valid first
    refine .ite (·.skipLines.nodes.isEmpty) (fun _ => nofun) fun f => ?_
    refine LastsAt.andThen (h _ valid'.skipLines (reached.trans d.skipLines_reaches)) ?_ f
    intro a e f g first
    obtain ⟨valid'', reached', -⟩ := goes valid'.skipLines first
    exact (ih (h.later ((reached.trans d.skipLines_reaches).trans reached')) valid'').andThen
      fun _ _ _ _ _ => .pure _

theorem LastsFrom.commaList (h : LastsFrom p c) (goes : Goes strict p) (valid : c.Valid) :
    LastsAt (commaList p) c := by
  refine .ite (·.skipLines.nodes.isEmpty) (fun _ => nofun) fun f => ?_
  refine LastsAt.andThen (h _ valid.skipLines c.skipLines_reaches) (fun a d f g first => ?_) f
  obtain ⟨valid', reached, -⟩ := goes valid.skipLines first
  exact fun f => LastsAt.andThen (q := fun as c f => .ok (a :: as) c f)
    ((h.later (c.skipLines_reaches.trans reached)).commaRest goes valid' d.steps)
    (fun _ _ _ _ _ => .pure _) f

theorem LastsAt.finish (what : String) : LastsAt (finish what : Parse ρ Unit) c := by
  intro f
  unfold Parse.finish
  split
  · nofun
  · nofun

/-- There is less room inside a group than before it. -/
theorem room_children {opener closer : Token Value} {children rest : List (Node Value)}
    (valid : c.Valid) (nodes : c.nodes = .group opener closer children :: rest)
    (stop : Position) : Cursor.room { nodes := children, stop } < c.room := by
  have zero := valid.split_eq_zero_of_group nodes
  simp only [Cursor.room, nodes, zero, Node.sizes, Node.size]
  omega

theorem LastsAt.group (b : Bracket) (valid : c.Valid)
    (hp : ∀ d : Cursor, d.Valid → d.room < c.room → LastsAt p d) : LastsAt (group b p) c := by
  intro f
  simp only [Parse.group]
  split
  · next opener closer children rest nodes =>
    split
    · have smaller := room_children valid.skipLines nodes closer.position
      have inside := hp _ (.inl rfl)
        (Nat.lt_of_lt_of_le smaller (c.skipLines_reaches.room_le valid valid.skipLines))
      refine LastsAt.andThen inside (fun a _ _ _ _ => ?_) f
      exact (LastsAt.finish _).andThen fun _ _ _ _ _ _ h => by cases h
    · exact LastsAt.want _ _ f
  · exact LastsAt.want _ _ f

end Parse

/-- Productions are not cut off in less room than `room`, nor, below the rank `bound`, in as
much. -/
def Enough {ρ : Type} {ν : Type → Type} (rank : {α : Type} → ν α → Nat)
    (call : {α : Type} → ν α → Parse ρ α) (room bound : Nat) : Prop :=
  ∀ ⦃α⦄ (n : ν α) (c : Cursor), c.Valid →
    c.room < room ∨ c.room ≤ room ∧ rank n < bound → (call n).LastsAt c

section

variable {ρ : Type} {ν : Type → Type} {rank : {α : Type} → ν α → Nat}
  {call : {α : Type} → ν α → Parse ρ α} {room room' bound bound' : Nat}

theorem Enough.mono (h : Enough rank call room bound) (room_le : room' ≤ room)
    (bound_le : bound' ≤ bound) : Enough rank call room' bound' :=
  fun _ n c valid less => h n c valid (by omega)

theorem Enough.shrink (h : Enough rank call room bound) (less : room' < room) :
    Enough rank call room' bound' :=
  fun _ n c valid less' => h n c valid (by omega)

end

theorem Phrase.parse_lasts {ρ : Type} [Notepad ρ] {ν : Type → Type}
    {call : {α : Type} → ν α → Parse ρ α} (goes : ∀ {α} (n : ν α), Parse.Goes true (call n))
    {rank : {α : Type} → ν α → Nat} {α : Type} (p : Phrase ν α) {c : Cursor}
    (enough : Enough rank call c.room (p.front rank)) (valid : c.Valid) :
    (p.parse call).LastsAt c := by
  have second {β γ : Type} (p : Phrase ν β) (q : Phrase ν γ) {c d : Cursor} {f g : ρ} {a : β}
      (enough : Enough rank call c.room (if p.consumes then 0 else q.front rank))
      (valid : c.Valid) (first : p.parse call c f = .ok a d g) :
      d.Valid ∧ Enough rank call d.room (q.front rank) := by
    obtain ⟨valid', reached, before⟩ := p.parse_goes goes valid first
    refine ⟨valid', ?_⟩
    split at enough
    · next consumes => exact enough.shrink ((before consumes).room_lt valid valid')
    · exact enough.mono (reached.room_le valid valid') (Nat.le_refl _)
  have everywhere {β : Type} (p : Phrase ν β) {c : Cursor}
      (enough : Enough rank call c.room (p.front rank)) (valid : c.Valid)
      (ih : ∀ {c : Cursor}, Enough rank call c.room (p.front rank) → c.Valid →
        (p.parse call).LastsAt c) : (p.parse call).LastsFrom c := fun d valid' reached =>
    ih (enough.mono (reached.room_le valid valid') (Nat.le_refl _)) valid'
  induction p generalizing c with
  | pure a => exact .pure a
  | terminal x => exact .terminal x
  | production n => exact enough n c valid (.inr ⟨Nat.le_refl _, Nat.lt_succ_self _⟩)
  | fail what => cases what <;> exact fun _ => nofun
  | seq p q ihp ihq =>
    refine (ihp (enough.mono (Nat.le_refl _) (Nat.le_max_left ..)) valid).andThen ?_
    intro g d f f' first
    obtain ⟨valid', enough'⟩ :=
      second p q (enough.mono (Nat.le_refl _) (Nat.le_max_right ..)) valid first
    exact (ihq enough' valid').andThen fun _ _ _ _ _ => .pure _
  | choose p q r ihp ihq ihr =>
    have left := enough.mono (Nat.le_refl _) (Nat.le_max_left ..)
    refine (ihp (left.mono (Nat.le_refl _) (Nat.le_max_left ..)) valid).either ?_
      (ihr (enough.mono (Nat.le_refl _) (Nat.le_max_right ..)) valid)
    intro g d f f' first
    obtain ⟨valid', enough'⟩ :=
      second p q (left.mono (Nat.le_refl _) (Nat.le_max_right ..)) valid first
    exact (ihq enough' valid').andThen fun _ _ _ _ _ => .pure _
  | many p ih =>
    exact (everywhere p enough valid ih).many (p.parse_goes goes) valid c.steps
  | commaList p ih => exact (everywhere p enough valid ih).commaList (p.parse_goes goes) valid
  | lineList p ih =>
    exact (everywhere p enough valid ih).lineList (p.parse_goes goes) valid c.steps
  | group b p ih => exact .group b valid fun d valid' less => ih (enough.shrink less) valid'
  | refuse keyword feature p r ihp ihr =>
    intro f
    simp only [Phrase.parse, Parse.refuse]
    have reached := c.skipLines_reaches
    have skipped := enough.mono (reached.room_le valid valid.skipLines) (Nat.le_refl _)
    refine Parse.LastsAt.either (.terminal _) ?_ (ihr skipped valid.skipLines) f
    intro a d f g first
    obtain ⟨valid', -, before⟩ := Parse.Goes.terminal _ valid.skipLines first
    refine (ihp (skipped.shrink ?_) valid').andThen fun _ _ _ _ _ _ h => by cases h
    exact (before rfl).room_lt valid.skipLines valid'
  | finish what => exact .finish what

namespace Production

variable {ρ : Type} [Notepad ρ] {α : Type}

/-- With enough fuel reading a production is not cut off. -/
theorem parse_lasts {fuel : Nat} (n : Production α) {c : Cursor} (valid : c.Valid)
    (enough : 32 * c.room + n.rank < fuel) : (n.parse fuel : Parse ρ α).LastsAt c := by
  induction fuel generalizing α c with
  | zero => omega
  | succ fuel ih =>
    have nested : Enough rank (fun n => n.parse fuel (ρ := ρ)) c.room (n.phrase.front rank) := by
      intro β m d valid' less
      have less : d.room < c.room ∨ d.room ≤ c.room ∧ m.rank < n.phrase.front rank := less
      have := n.front_phrase
      have := m.rank_lt
      exact ih m valid' (by omega)
    exact n.phrase.parse_lasts (fun n => parse_goes fuel n) nested valid

end Production

/-! ## The same reply -/

/-- The same reply, with notes that `R` relates, unless the first was cut off. -/
inductive Reply.Follows {ρ ρ' α : Type} (R : ρ → ρ' → Prop) : Reply ρ α → Reply ρ' α → Prop
  | ok (a : α) (c : Cursor) {f : ρ} {f' : ρ'} : R f f' → Follows R (.ok a c f) (.ok a c f')
  | mismatch {f : ρ} {f' : ρ'} : R f f' → Follows R (.mismatch f) (.mismatch f')
  | fatal (e : ParseError) : Follows R (.fatal e) (.fatal e)
  | exhausted (r : Reply ρ' α) : Follows R .exhausted r

namespace Reply.Follows

variable {ρ α : Type} {r r' : Reply ρ α}

theorem refl (r : Reply ρ α) : Reply.Follows Eq r r := by
  cases r with
  | ok a c f => exact .ok a c rfl
  | mismatch f => exact .mismatch rfl
  | fatal e => exact .fatal e
  | exhausted => exact .exhausted _

theorem eq (h : Reply.Follows Eq r r') (lasts : r ≠ .exhausted) : r' = r := by
  cases h with
  | ok a c notes => rw [notes]
  | mismatch notes => rw [notes]
  | fatal e => rfl
  | exhausted r => exact absurd rfl lasts

end Reply.Follows

namespace Parse

variable {ρ ρ' α β : Type} {R : ρ → ρ' → Prop}

/-- From every valid cursor the replies of `p` are those of `p'`, unless `p` is cut off. -/
def Follows (R : ρ → ρ' → Prop) (p : Parse ρ α) (p' : Parse ρ' α) : Prop :=
  ∀ ⦃c f f'⦄, c.Valid → R f f' → Reply.Follows R (p c f) (p' c f')

theorem Follows.pure (a : α) : Follows R (fun c f => .ok a c f) fun c f => .ok a c f :=
  fun c _ _ _ notes => .ok a c notes

variable {p : Parse ρ α} {p' : Parse ρ' α} {strict : Bool}

theorem Follows.andThen {q : α → Parse ρ β} {q' : α → Parse ρ' β} (goes : Goes strict p)
    (hp : Follows R p p') (hq : ∀ a, Follows R (q a) (q' a)) :
    Follows R (andThen p q) (andThen p' q') := by
  intro c f f' valid notes
  have first := hp valid notes
  unfold Parse.andThen
  generalize reply : p c f = r at first ⊢
  generalize p' c f' = r' at first ⊢
  cases first with
  | ok a d notes => exact hq a (goes valid reply).1 notes
  | mismatch notes => exact .mismatch notes
  | fatal e => exact .fatal e
  | exhausted r => exact .exhausted _

theorem Follows.either {q : α → Parse ρ β} {q' : α → Parse ρ' β} {r : Parse ρ β}
    {r' : Parse ρ' β} (goes : Goes strict p) (hp : Follows R p p')
    (hq : ∀ a, Follows R (q a) (q' a)) (hr : Follows R r r') :
    Follows R (either p q r) (either p' q' r') := by
  intro c f f' valid notes
  have first := hp valid notes
  unfold Parse.either
  generalize reply : p c f = r at first ⊢
  generalize p' c f' = r' at first ⊢
  cases first with
  | ok a d notes => exact hq a (goes valid reply).1 notes
  | mismatch notes => exact hr valid notes
  | fatal e => exact .fatal e
  | exhausted r => exact .exhausted _

theorem Follows.ite {q : Parse ρ α} {q' : Parse ρ' α} (b : Cursor → Bool) (hp : Follows R p p')
    (hq : Follows R q q') :
    Follows R (fun c f => if b c then p c f else q c f)
      fun c f => if b c then p' c f else q' c f := by
  intro c f f' valid notes
  dsimp only
  split
  · exact hp valid notes
  · exact hq valid notes

theorem Follows.skipLines (hp : Follows R p p') :
    Follows R (fun c => p c.skipLines) fun c => p' c.skipLines :=
  fun _ _ _ valid notes => hp valid.skipLines notes

theorem Follows.many (goes : Goes strict p) (hp : Follows R p p') (fuel : Nat) :
    Follows R (many p fuel) (many p' fuel) := by
  induction fuel with
  | zero => exact .pure []
  | succ fuel ih =>
    intro c f f' valid notes
    refine hp.either goes (fun a => ?_) (.pure []) valid notes
    exact .ite (·.sameAs c) (.pure [a]) (ih.andThen (goes.many fuel) fun as => .pure (a :: as))

theorem Follows.lineList (goes : Goes strict p) (hp : Follows R p p') (fuel : Nat) :
    Follows R (lineList p fuel) (lineList p' fuel) := by
  induction fuel with
  | zero => exact .pure []
  | succ fuel ih =>
    exact .ite (·.atLineOrEnd) (.pure []) (hp.either goes
      (fun a => ih.andThen (goes.lineList fuel) fun as => .pure (a :: as)) (.pure []))

variable [Notepad ρ] [Notepad ρ']

/-- What `R` relates stays related when the same is noted. -/
def NotesAlike (R : ρ → ρ' → Prop) : Prop :=
  ∀ ⦃f f'⦄ (c : Cursor) (what : String), R f f' →
    R (Notepad.note f c what) (Notepad.note f' c what)

variable (alike : NotesAlike R)
include alike

theorem Follows.want (what : String) : Follows R (want what : Parse ρ α) (want what) :=
  fun c _ _ _ notes => .mismatch (alike c what notes)

theorem Follows.terminal (x : Terminal α) : Follows R (terminal x : Parse ρ α) (terminal x) := by
  intro c f f' valid notes
  unfold Parse.terminal
  split
  · next a d _ => exact .ok a d notes
  · exact .mismatch (alike _ _ notes)

theorem Follows.commaRest (goes : Goes strict p) (hp : Follows R p p') (fuel : Nat) :
    Follows R (commaRest p fuel) (commaRest p' fuel) := by
  induction fuel with
  | zero => exact .pure []
  | succ fuel ih =>
    refine (Follows.terminal alike _).either (.terminal _) (fun _ => ?_) (.pure [])
    refine .ite (·.skipLines.nodes.isEmpty) (Follows.pure []).skipLines ?_
    exact (hp.andThen goes fun a =>
      ih.andThen (goes.commaRest fuel) fun as => .pure (a :: as)).skipLines

theorem Follows.commaList (goes : Goes strict p) (hp : Follows R p p') :
    Follows R (commaList p) (commaList p') := by
  refine .ite (·.skipLines.nodes.isEmpty) (Follows.pure []).skipLines
    (hp.andThen goes fun a => ?_).skipLines
  intro c f f' valid notes
  exact (hp.commaRest alike goes c.steps).andThen (goes.commaRest _)
    (fun as => .pure (a :: as)) valid notes

theorem Follows.finish (what : String) : Follows R (finish what : Parse ρ Unit) (finish what) := by
  intro c f f' valid notes
  unfold Parse.finish
  split
  · exact .ok () _ notes
  · exact .mismatch (alike _ _ notes)

theorem Follows.group (b : Bracket) (goes : Goes strict p) (hp : Follows R p p') :
    Follows R (group b p) (group b p') := by
  intro c f f' valid notes
  simp only [Parse.group]
  split
  · split
    · exact hp.andThen goes (fun a => (Follows.finish alike _).andThen (.finish _)
        fun _ _ _ _ _ notes => .ok a _ notes) (.inl rfl) notes
    · exact .mismatch (alike _ _ notes)
  · exact .mismatch (alike _ _ notes)

theorem Follows.refuse (keyword feature : String) {p : Parse ρ Unit} {p' : Parse ρ' Unit}
    {r : Parse ρ α} {r' : Parse ρ' α} (goes : Goes strict p) (hp : Follows R p p')
    (hr : Follows R r r') :
    Follows R (refuse keyword feature p r) (refuse keyword feature p' r') := by
  intro c f f' valid notes
  exact (Follows.terminal alike _).either (.terminal _)
    (fun _ => hp.andThen goes fun _ _ _ _ _ _ => .fatal _) hr valid.skipLines notes

end Parse

/-- Where productions have the same replies, so do phrases. -/
theorem Phrase.parse_follows {ρ ρ' : Type} [Notepad ρ] [Notepad ρ'] {R : ρ → ρ' → Prop}
    (alike : Parse.NotesAlike R) {ν : Type → Type} {call : {α : Type} → ν α → Parse ρ α}
    {call' : {α : Type} → ν α → Parse ρ' α} (goes : ∀ {α} (n : ν α), Parse.Goes true (call n))
    (h : ∀ {α} (n : ν α), Parse.Follows R (call n) (call' n)) {α : Type} (p : Phrase ν α) :
    Parse.Follows R (p.parse call) (p.parse call') := by
  have goes {α : Type} (p : Phrase ν α) := p.parse_goes goes
  induction p with
  | pure a => exact .pure a
  | terminal x => exact .terminal alike x
  | production n => exact h n
  | fail what =>
    cases what with
    | some what => exact .want alike what
    | none => exact fun _ _ _ _ notes => .mismatch notes
  | seq p q ihp ihq =>
    exact ihp.andThen (goes p) fun g => ihq.andThen (goes q) fun a => .pure (g a)
  | choose p q r ihp ihq ihr =>
    exact ihp.either (goes p) (fun a => ihq.andThen (goes q) fun g => .pure (g a)) ihr
  | many p ih => exact fun c _ _ valid notes => ih.many (goes p) c.steps valid notes
  | commaList p ih => exact ih.commaList alike (goes p)
  | lineList p ih => exact fun c _ _ valid notes => ih.lineList (goes p) c.steps valid notes
  | group b p ih => exact ih.group alike b (goes p)
  | refuse keyword feature p r ihp ihr => exact ihp.refuse alike keyword feature (goes p) ihr
  | finish what => exact .finish alike what

namespace Production

variable {ρ : Type} [Notepad ρ] {α : Type}

theorem parse_follows {ρ' : Type} [Notepad ρ'] {R : ρ → ρ' → Prop} (alike : Parse.NotesAlike R)
    {fuel fuel' : Nat} (le : fuel ≤ fuel') (n : Production α) :
    Parse.Follows R (n.parse fuel) (n.parse fuel') := by
  induction fuel generalizing α fuel' with
  | zero => exact fun _ _ _ _ _ => .exhausted _
  | succ fuel ih =>
    obtain ⟨more, rfl⟩ : ∃ more, fuel' = more + 1 := ⟨fuel' - 1, by omega⟩
    exact n.phrase.parse_follows alike (parse_goes fuel) fun n => ih (by omega) n

/-- Reads a production, with fuel that suffices. -/
def read (n : Production α) : Parse ρ α := fun c => n.parse (32 * (c.room + 1)) c

theorem read_lasts (n : Production α) {c : Cursor} (valid : c.Valid) :
    (n.read : Parse ρ α).LastsAt c := by
  intro f
  have enough : 32 * c.room + n.rank < 32 * (c.room + 1) := by
    have := n.rank_lt
    omega
  exact n.parse_lasts valid enough f

theorem notesAlike_eq : Parse.NotesAlike (ρ := ρ) Eq := by
  rintro f _ c what rfl
  rfl

/-- Fuel or not, a reply that is not cut off is the same. -/
theorem follows_read (fuel : Nat) (n : Production α) :
    Parse.Follows Eq (n.parse fuel : Parse ρ α) n.read := by
  rintro c f _ valid rfl
  rcases Nat.le_total fuel (32 * (c.room + 1)) with le | le
  · exact n.parse_follows notesAlike_eq le valid rfl
  · have same : n.parse fuel c f = n.read c f :=
      (n.parse_follows notesAlike_eq le valid (rfl : f = f)).eq (n.read_lasts valid f)
    exact same ▸ .refl _

/-- With enough fuel a production is read as without. -/
theorem parse_eq_read {fuel : Nat} (n : Production α) {c : Cursor} (valid : c.Valid)
    (enough : 32 * c.room + n.rank < fuel) (f : ρ) : n.parse fuel c f = n.read c f :=
  ((n.follows_read fuel valid rfl).eq (n.parse_lasts valid enough f)).symm

/-- A production is read as its phrase is. -/
theorem read_eq (n : Production α) {c : Cursor} (valid : c.Valid) (f : ρ) :
    n.read c f = n.phrase.parse read c f := by
  have follows := n.phrase.parse_follows notesAlike_eq (parse_goes (32 * c.room + 31))
    (follows_read (ρ := ρ) _) valid (rfl : f = f)
  exact (follows.eq (n.read_lasts valid f)).symm

end Production

namespace Tree

/-- The place before everything. -/
def start (t : Tree Value) : Cursor := { nodes := t.nodes, stop := t.stop }

theorem start_valid (t : Tree Value) : t.start.Valid := .inl rfl

/-- The fuel of a tree is enough for its program. -/
theorem program_eq (t : Tree Value) :
    t.program = match Production.program.read t.start ({} : Furthest) with
      | .ok ds _ _ => .ok ds
      | .mismatch f => .error f.error
      | .fatal e => .error e
      | .exhausted => .error (Furthest.error {}) := by
  have enough : 32 * t.start.room + Production.program.rank < t.fuel := by
    simp only [Cursor.room, start, fuel, Production.rank]
    omega
  have same := Production.program.parse_eq_read (ρ := Furthest) t.start_valid enough {}
  exact same ▸ rfl

end Tree

end RuleMachine
