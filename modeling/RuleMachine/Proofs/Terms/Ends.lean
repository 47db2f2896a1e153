import Mathlib.Data.List.DropRight
import RuleMachine.Proofs.Terms.Reading

/-!
# Where expressions end

An expression that takes all nodes up to the end (`ReadsAlone`) is read in the same way if more
nodes follow, as long as these do not go on with it (`Bars`): they begin with no operand and with no
operator that has an operand after it. A symbol that is no operator of expressions does not, even
where it begins with one, as an arrow begins with a minus.
-/

namespace RuleMachine

open Plain

/-! ## Nodes that go on -/

theorem Node.eq_of_isLine {n : Node Value} (line : n.isLine) :
    ∃ text place, n = .token ⟨.line, text, place⟩ := by
  cases n with
  | token t =>
    obtain ⟨kind, text, place⟩ := t
    cases kind with
    | line => exact ⟨text, place, rfl⟩
    | ignored | identifier | literal | punctuation | operator => cases line
  | group => cases line

/-- The place in nodes that go on after their end. -/
def Cursor.extend (more : List (Node Value)) (stop : Position) (c : Cursor) : Cursor :=
  { c with nodes := c.nodes ++ more, stop }

/-- No nodes are left but line breaks. -/
def Cursor.AtEnd (c : Cursor) : Prop := c.skipLines.nodes = []

/-- No whole token and no group comes next. -/
structure Cursor.Stuck (c : Cursor) : Prop where
  token {t : Token Value} : c.skipLines.token? = some t → t.isSymbol
  group {opener closer : Token Value} {inside ns : List (Node Value)} :
    c.skipLines.nodes ≠ .group opener closer inside :: ns

namespace Cursor

variable {c : Cursor} {more : List (Node Value)} {stop : Position}

theorem AtEnd.split_eq_zero (valid : c.Valid) (h : c.AtEnd) : c.split = 0 := by
  rcases valid with zero | ⟨t, rest, nodes, -⟩
  · exact zero
  · by_contra split
    rw [AtEnd, skipLines, if_neg split, nodes] at h
    cases h

theorem AtEnd.stuck (h : c.AtEnd) : c.Stuck where
  token {t} front := by
    rw [token?, h] at front
    cases front
  group nodes := by
    rw [h] at nodes
    cases nodes

theorem skipLines_symbol {t : Token Value} {ns : List (Node Value)} (symbol : t.isSymbol) :
    skipLines { nodes := .token t :: ns, stop } = { nodes := .token t :: ns, stop } := by
  obtain ⟨kind, text, place⟩ := t
  cases kind <;> first | rfl | cases symbol

theorem stuck_of_symbol {t : Token Value} {ns : List (Node Value)}
    (nodes : c.skipLines.nodes = .token t :: ns) (symbol : t.isSymbol) : c.Stuck where
  token {t'} front := by
    rw [token?, nodes] at front
    cases front
    exact symbol
  group same := by
    rw [nodes] at same
    cases same

theorem Valid.stuck (valid : c.Valid) (split : c.split ≠ 0) : c.Stuck := by
  rcases valid with zero | ⟨t, rest, nodes, symbol, -⟩
  · exact absurd zero split
  · have front : c.skipLines.nodes = .token t :: rest := by
      rw [Cursor.skipLines, if_neg split, nodes]
    exact stuck_of_symbol front symbol

theorem Valid.extend (valid : c.Valid) : (c.extend more stop).Valid := by
  rcases valid with zero | ⟨t, rest, nodes, symbol, less⟩
  · exact .inl zero
  · exact .inr ⟨t, rest ++ more, by rw [Cursor.extend, nodes, List.cons_append], symbol, less⟩

theorem extend_skipLines (inside : ¬ c.AtEnd) :
    (c.extend more stop).skipLines = c.skipLines.extend more stop := by
  unfold AtEnd at inside
  unfold skipLines at inside ⊢
  by_cases zero : c.split = 0
  · rw [if_pos zero] at inside ⊢
    have unsplit : (c.extend more stop).split = 0 := zero
    rw [if_pos unsplit]
    simp [extend, List.dropWhile_append, inside]
  · have split : ¬ (c.extend more stop).split = 0 := zero
    rw [if_neg zero, if_neg split]

theorem extend_token? (front : c.nodes ≠ []) : (c.extend more stop).token? = c.token? := by
  obtain ⟨n, ns, nodes⟩ := List.exists_cons_of_ne_nil front
  rw [token?, token?, extend, nodes, List.cons_append]
  cases n <;> rfl

theorem extend_next (front : c.nodes ≠ []) :
    (c.extend more stop).next = c.next.extend more stop := by
  simp [next, extend, List.tail_append_of_ne_nil front]

end Cursor

/-- The reply in nodes that go on. -/
def Reply.extend {α : Type} (more : List (Node Value)) (stop : Position) :
    Reply Unit α → Reply Unit α
  | .ok a c f => .ok a (c.extend more stop) f
  | .mismatch f => .mismatch f
  | .fatal e => .fatal e
  | .exhausted => .exhausted

namespace Parse

variable {α β : Type} {c : Cursor} {more : List (Node Value)}

/-- The same is read at a cursor if the nodes go on. -/
def SteadyAt (more : List (Node Value)) (p : Parse Unit α) (c : Cursor) : Prop :=
  ∀ stop, p (c.extend more stop) () = (p c ()).extend more stop

def Steady (more : List (Node Value)) (p : Parse Unit α) : Prop :=
  ∀ c : Cursor, c.Valid → SteadyAt more p c

theorem SteadyAt.pure (a : α) : SteadyAt more (fun c f => .ok a c f) c := fun _ => rfl

theorem SteadyAt.andThen {p : Parse Unit α} {q : α → Parse Unit β} (hp : SteadyAt more p c)
    (hq : ∀ a d, p c () = .ok a d () → SteadyAt more (q a) d) :
    SteadyAt more (andThen p q) c := by
  intro stop
  unfold Parse.andThen
  rw [hp stop]
  cases first : p c () with
  | ok a d => exact hq a d first stop
  | mismatch | fatal | exhausted => rfl

theorem SteadyAt.either {p : Parse Unit α} {q : α → Parse Unit β} {r : Parse Unit β}
    (hp : SteadyAt more p c) (hq : ∀ a d, p c () = .ok a d () → SteadyAt more (q a) d)
    (hr : SteadyAt more r c) : SteadyAt more (either p q r) c := by
  intro stop
  unfold Parse.either
  rw [hp stop]
  cases first : p c () with
  | ok a d => exact hq a d first stop
  | mismatch => exact hr stop
  | fatal | exhausted => rfl

theorem SteadyAt.want (what : String) : SteadyAt more (want what : Parse Unit α) c := fun _ => rfl

theorem terminal?_extend {stop : Position} (valid : c.Valid) (front : c.nodes ≠ [])
    (x : Terminal α) : terminal? (c.extend more stop) x =
      (terminal? c x).map fun (a, d) => (a, d.extend more stop) := by
  by_cases whole : x.whole
  · rw [terminal?_eq valid.extend whole, terminal?_eq valid whole, c.extend_token? front,
      c.extend_next front]
    cases c.token?.bind x.value? <;> rfl
  · cases x with
    | symbol text =>
      cases token : c.token? with
      | none =>
        simp only [terminal?, token, c.extend_token? front]
        rfl
      | some t =>
        rw [terminal?_symbol ((c.extend_token? front).trans token), terminal?_symbol token,
          c.extend_next front]
        change (if t.isSymbol && text.toList.isPrefixOf (c.rest t) then _ else _) = _
        by_cases fits : t.isSymbol && text.toList.isPrefixOf (c.rest t)
        · rw [if_pos fits, if_pos fits]
          change some ((), if t.text.length ≤ c.split + text.length then _ else _) = _
          by_cases last : t.text.length ≤ c.split + text.length
          · rw [if_pos last, if_pos last]
            rfl
          · rw [if_neg last, if_neg last]
            rfl
        · rw [if_neg fits, if_neg fits]
          rfl
    | _ => exact absurd rfl whole

theorem SteadyAt.terminal (valid : c.Valid) (inside : ¬ c.AtEnd) (x : Terminal α) :
    SteadyAt more (terminal x) c := by
  intro stop
  unfold Parse.terminal
  rw [Cursor.extend_skipLines inside, terminal?_extend valid.skipLines inside]
  cases terminal? c.skipLines x <;> rfl

theorem SteadyAt.group (inside : ¬ c.AtEnd) (b : Bracket) (p : Parse Unit α) :
    SteadyAt more (group b p) c := by
  intro stop
  unfold Parse.group
  rw [Cursor.extend_skipLines inside]
  obtain ⟨n, ns, front⟩ := List.exists_cons_of_ne_nil inside
  generalize c.skipLines = d at front
  obtain ⟨nodes, split, place⟩ := d
  subst front
  cases n with
  | token => rfl
  | group opener closer children =>
    simp only [Cursor.extend, List.cons_append]
    by_cases same : opener.text = b.opener
    · rw [if_pos same, if_pos same]
      unfold Parse.andThen
      cases p { nodes := children, stop := closer.position } () with
      | ok a d =>
        dsimp only
        cases finish s!"'{b.closer}'" d () <;> rfl
      | mismatch | fatal | exhausted => rfl
    · rw [if_neg same, if_neg same]
      rfl

/-- A line break in front does not matter. -/
def Passes (p : Parse Unit α) : Prop :=
  ∀ text place ns stop, p { nodes := .token ⟨.line, text, place⟩ :: ns, stop } () =
    p { nodes := ns, stop } ()

theorem Passes.andThen {p : Parse Unit α} (hp : Passes p) (q : α → Parse Unit β) :
    Passes (andThen p q) := by
  intro text place ns stop
  rw [Parse.andThen, Parse.andThen, hp]

theorem Passes.either {p : Parse Unit α} {r : Parse Unit β} (hp : Passes p)
    (q : α → Parse Unit β) (hr : Passes r) : Passes (either p q r) := by
  intro text place ns stop
  rw [Parse.either, Parse.either, hp]
  cases p { nodes := ns, stop } () with
  | mismatch => exact hr text place ns stop
  | ok | fatal | exhausted => rfl

theorem Passes.lines {p : Parse Unit α} (h : Passes p) {lines : List (Node Value)}
    (all : ∀ n ∈ lines, n.isLine) (ns : List (Node Value)) (stop : Position) :
    p { nodes := lines ++ ns, stop } () = p { nodes := ns, stop } () := by
  induction lines with
  | nil => rfl
  | cons n lines ih =>
    obtain ⟨line, rest⟩ := List.forall_mem_cons.mp all
    obtain ⟨text, place, rfl⟩ := Node.eq_of_isLine line
    rw [List.cons_append, h]
    exact ih rest

/-- A terminal after line breaks. -/
theorem terminal_lines {lines : List (Node Value)} (all : ∀ n ∈ lines, n.isLine)
    (x : Terminal α) {ns : List (Node Value)} {stop : Position} :
    terminal x { nodes := lines ++ ns, stop } () = terminal x { nodes := ns, stop } () := by
  have passes : Passes (terminal x) := fun _ _ _ _ => rfl
  exact passes.lines all ns stop

theorem Passes.skipLines {p : Parse Unit α} (h : Passes p) (ns : List (Node Value))
    (stop : Position) :
    p (Cursor.skipLines { nodes := ns, stop }) () = p { nodes := ns, stop } () := by
  have all : ∀ n ∈ ns.takeWhile (·.isLine), n.isLine := fun _ => List.mem_takeWhile_imp
  have same := h.lines all (ns.dropWhile (·.isLine)) stop
  rw [List.takeWhile_append_dropWhile] at same
  exact same.symm

/-- What passes line breaks and finds nothing, neither at the end nor in what follows, is steady at
the end. -/
theorem SteadyAt.of_passes {p : Parse Unit α} (valid : c.Valid) (passes : Passes p)
    (nothing : ∀ stop, p { nodes := [], stop } () = .mismatch ())
    (refuses : ∀ stop, p { nodes := more, stop } () = .mismatch ())
    (inside : ¬ c.AtEnd → SteadyAt more p c) : SteadyAt more p c := by
  by_cases atEnd : c.AtEnd
  · intro stop
    obtain ⟨nodes, split, place⟩ := c
    obtain rfl : split = 0 := atEnd.split_eq_zero valid
    have lines : nodes.dropWhile (·.isLine) = [] := atEnd
    change p { nodes := nodes ++ more, stop } () = (p { nodes, stop := place } ()).extend more stop
    have all : ∀ n ∈ nodes, n.isLine := List.dropWhile_eq_nil_iff.mp lines
    have ended := passes.lines all [] place
    rw [List.append_nil] at ended
    rw [passes.lines all, refuses, ended, nothing]
    rfl
  · exact inside atEnd

end Parse

namespace Phrase

variable {α β : Type} {c : Cursor} {more : List (Node Value)}

/-- The same is read for a phrase at a cursor if the nodes go on. -/
def SteadyAt (more : List (Node Value)) (p : Phrase Production α) (c : Cursor) : Prop :=
  Parse.SteadyAt more (p.parse Production.read) c

def Steady (more : List (Node Value)) (p : Phrase Production α) : Prop :=
  Parse.Steady more (p.parse Production.read)

theorem SteadyAt.seq {p : Phrase Production (α → β)} {q : Phrase Production α}
    (hp : SteadyAt more p c)
    (hq : ∀ g d, p.parse Production.read c () = .ok g d () → SteadyAt more q d) :
    SteadyAt more (.seq p q) c :=
  Parse.SteadyAt.andThen hp fun g d first =>
    Parse.SteadyAt.andThen (hq g d first) fun a _ _ => .pure (g a)

theorem SteadyAt.map {p : Phrase Production α} (g : α → β) (hp : SteadyAt more p c) :
    SteadyAt more (g <$> p) c :=
  .seq (.pure g) (by rintro _ _ ⟨⟩; exact hp)

theorem SteadyAt.orElse {p q : Phrase Production α} (hp : SteadyAt more p c)
    (hq : SteadyAt more q c) : SteadyAt more (.orElse p q) c :=
  Parse.SteadyAt.either hp
    (fun a _ _ => Parse.SteadyAt.andThen (.pure _) fun g _ _ => .pure (g a)) hq

theorem SteadyAt.optional {p : Phrase Production α} (hp : SteadyAt more p c) :
    SteadyAt more (.optional p) c :=
  Parse.SteadyAt.either hp
    (fun a _ _ => Parse.SteadyAt.andThen (.pure _) fun g _ _ => .pure (g a)) (.pure _)

def Passes (p : Phrase Production α) : Prop := Parse.Passes (p.parse Production.read)

theorem Passes.terminal (x : Terminal α) : Passes (.terminal x) := fun _ _ _ _ => rfl

theorem Passes.group (b : Bracket) (p : Phrase Production α) : Passes (.group b p) :=
  fun _ _ _ _ => rfl

theorem Passes.fail (what : Option String) : Passes (.fail what : Phrase Production α) := by
  cases what <;> exact fun _ _ _ _ => rfl

theorem Passes.map {p : Phrase Production α} (g : α → β) (hp : Passes p) : Passes (g <$> p) :=
  Parse.Passes.andThen hp _

theorem Passes.seq {p : Phrase Production (α → β)} (hp : Passes p) (q : Phrase Production α) :
    Passes (.seq p q) :=
  Parse.Passes.andThen hp _

theorem Passes.orElse {p q : Phrase Production α} (hp : Passes p) (hq : Passes q) :
    Passes (.orElse p q) :=
  Parse.Passes.either hp _ hq

theorem Passes.oneOf {ps : List (Phrase Production α)} (h : ∀ p ∈ ps, p.Passes) :
    (oneOf ps).Passes := by
  induction ps with
  | nil => exact .fail _
  | cons p ps ih =>
    obtain ⟨here, there⟩ := List.forall_mem_cons.mp h
    cases ps with
    | nil => exact here
    | cons => exact .orElse here (ih there)

theorem Passes.production {n : Production α} (h : Passes n.phrase) : Passes (.production n) := by
  intro text place ns stop
  rw [parse_production, n.read_eq (.inl rfl), n.read_eq (.inl rfl)]
  exact h text place ns stop

theorem SteadyAt.production {n : Production α} (valid : c.Valid) (h : SteadyAt more n.phrase c) :
    SteadyAt more (.production n) c := by
  intro stop
  rw [parse_production, n.read_eq valid.extend, n.read_eq valid]
  exact h stop

theorem SteadyAt.of_passes {p : Phrase Production α} (valid : c.Valid) (passes : p.Passes)
    (nothing : ∀ stop, p.parse Production.read { nodes := [], stop } () = .mismatch ())
    (refuses : ∀ stop, p.parse Production.read { nodes := more, stop } () = .mismatch ())
    (inside : ¬ c.AtEnd → p.SteadyAt more c) : p.SteadyAt more c :=
  Parse.SteadyAt.of_passes valid passes nothing refuses inside

theorem Steady.many {p : Phrase Production α} (consumes : p.consumes) (hp : Steady more p) :
    Steady more (.many p) := by
  intro c valid
  induction left : c.steps using Nat.strong_induction_on generalizing c with
  | h steps ih =>
    intro stop
    rw [parse_many consumes valid.extend, parse_many consumes valid]
    refine Parse.SteadyAt.either (hp c valid) (fun a d first => ?_) (.pure []) stop
    obtain ⟨valid', -, before⟩ := p.parse_goes Production.read_goes valid first
    have less := (before consumes).steps_lt valid valid'
    exact Parse.SteadyAt.andThen (ih d.steps (left ▸ less) d valid' rfl) fun as _ _ =>
      .pure (a :: as)

end Phrase

/-! ## Expressions -/

section

variable {c : Cursor} {more : List (Node Value)}

/-- Phrases that take one node or do not fit. -/
inductive Single : {α : Type} → Phrase Production α → Prop
  | terminal {α : Type} {x : Terminal α} (whole : x.whole) : Single (.terminal x)
  | group {α : Type} (b : Bracket) (p : Phrase Production α) : Single (.group b p)
  | fail {α : Type} (what : Option String) : Single (.fail what : Phrase Production α)
  | map {α β : Type} (g : α → β) {p : Phrase Production α} : Single p → Single (g <$> p)
  | orElse {α : Type} {p q : Phrase Production α} : Single p → Single q → Single (.orElse p q)
  | production {α : Type} {n : Production α} : Single n.phrase → Single (.production n)

namespace Single

variable {α : Type} {p : Phrase Production α}

theorem constant (word : String) (value : α) : Single (Production.constant word value) :=
  .map _ (.terminal rfl)

theorem literal : Single (.production .literal) :=
  .production (.orElse (constant _ _) (.orElse (constant _ _) (.orElse (constant _ _)
    (.orElse (constant _ _) (.terminal rfl)))))

theorem operand : Single (.production .operand) :=
  .production (.orElse (.group _ _) (.orElse (.map _ (.group _ _)) (.orElse (.map _ (.group _ _))
    (.orElse (.map _ literal) (.orElse (.map _ (.terminal rfl))
      (.orElse (.map _ (.terminal rfl)) (.fail _)))))))

theorem passes (h : Single p) : p.Passes := by
  induction h with
  | terminal | group => exact fun _ _ _ _ => rfl
  | fail what => cases what <;> exact fun _ _ _ _ => rfl
  | map g _ ih => exact .map g ih
  | orElse _ _ ih ih' => exact .orElse ih ih'
  | production _ ih => exact .production ih

theorem steadyAt (h : Single p) (valid : c.Valid) (inside : ¬ c.AtEnd) : p.SteadyAt more c := by
  induction h with
  | terminal => exact Parse.SteadyAt.terminal valid inside _
  | group b p => exact Parse.SteadyAt.group inside b _
  | fail what => cases what <;> exact fun _ => rfl
  | map g _ ih => exact .map g ih
  | orElse _ _ ih ih' => exact .orElse ih ih'
  | production _ ih => exact .production valid ih

/-- Neither the end nor a symbol is a node to take. -/
theorem stuck (h : Single p) (valid : c.Valid) (none : c.Stuck) :
    p.parse Production.read c () = .mismatch () := by
  induction h with
  | @terminal α x whole =>
    have refused : Parse.terminal? c.skipLines x = Option.none := by
      rw [Parse.terminal?_eq valid.skipLines whole, Option.map_eq_none_iff,
        Option.bind_eq_none_iff]
      intro t front
      by_contra taken
      obtain ⟨a, value⟩ := Option.ne_none_iff_exists'.mp taken
      have solid := Terminal.not_isSymbol_of_value? value
      rw [none.token front] at solid
      cases solid
    rw [Phrase.parse_terminal, Parse.terminal, refused]
    rfl
  | group b p =>
    rw [Phrase.parse_group, Parse.group]
    split
    · next nodes => exact absurd nodes none.group
    · rfl
  | fail what => cases what <;> rfl
  | map g _ ih =>
    simp only [Phrase.map_eq, Phrase.parse_seq, Phrase.parse_pure, Parse.andThen, ih]
  | orElse _ _ ih ih' =>
    simp only [Phrase.orElse, Phrase.parse_choose, Parse.either, ih, ih']
  | @production α n _ ih =>
    rw [Phrase.parse_production, n.read_eq valid]
    exact ih

theorem nothing (h : Single p) (stop : Position) :
    p.parse Production.read { nodes := [], stop } () = .mismatch () :=
  h.stuck (.inl rfl) (Cursor.AtEnd.stuck rfl)

/-- What is left is what comes after the first node that is no line break. -/
theorem next (h : Single p) (valid : c.Valid) {a : α} {d : Cursor}
    (ok : p.parse Production.read c () = .ok a d ()) : d = c.skipLines.next := by
  induction h with
  | @terminal α x whole =>
    rw [Phrase.parse_terminal, Parse.terminal, Parse.terminal?_eq valid.skipLines whole] at ok
    generalize c.skipLines.token?.bind x.value? = value at ok
    cases value with
    | none => cases ok
    | some a =>
      cases ok
      rfl
  | group b p =>
    rw [Phrase.parse_group, Parse.group] at ok
    split at ok
    · split at ok
      · obtain ⟨_, _, _, -, closed⟩ := Parse.andThen_ok ok
        obtain ⟨_, _, _, -, rest⟩ := Parse.andThen_ok closed
        cases rest
        rfl
      · cases ok
    · cases ok
  | fail what => cases what <;> cases ok
  | map g _ ih =>
    obtain ⟨_, _, _, first, second⟩ := Parse.andThen_ok ok
    cases first
    obtain ⟨_, _, _, value, rest⟩ := Parse.andThen_ok second
    cases rest
    exact ih value
  | orElse _ _ ih ih' =>
    rcases Parse.either_ok ok with taken | ⟨_, -, second⟩
    · obtain ⟨_, _, _, first, rest⟩ := Parse.andThen_ok taken
      cases rest
      exact ih first
    · exact ih' second
  | @production α n _ ih =>
    rw [Phrase.parse_production, n.read_eq valid] at ok
    exact ih ok

end Single

theorem passes_operator {α : Type} (symbol : String) (op : α) :
    (Production.operator symbol op).Passes :=
  .map _ (.terminal _)

theorem steadyAt_operator {α : Type} (valid : c.Valid) (inside : ¬ c.AtEnd) (symbol : String)
    (op : α) : (Production.operator symbol op).SteadyAt more c :=
  .map _ (Parse.SteadyAt.terminal valid inside _)

theorem passes_sums : sums.Passes :=
  .orElse (passes_operator _ _) (.orElse (passes_operator _ _) (.fail _))

theorem passes_products : products.Passes :=
  .orElse (passes_operator _ _) (.orElse (passes_operator _ _)
    (.orElse (passes_operator _ _) (.fail _)))

theorem passes_link {ops : Phrase Production Operator} (h : ops.Passes) (part : Production Expr) :
    (link ops part).Passes :=
  .seq (.map _ h) _

end

/-- The exponent of a power, after its symbol. -/
def raising : Phrase Production Expr := .symbol "**" *> .production .power

/-- The nodes begin with no operand, and with no operator that has an operand after it. -/
structure Bars (more : List (Node Value)) : Prop where
  operand (stop : Position) :
    (Phrase.production Production.operand).parse Production.read { nodes := more, stop } () =
      .mismatch ()
  raised (stop : Position) :
    raising.parse Production.read { nodes := more, stop } () = .mismatch ()
  factor (stop : Position) :
    (link products .power).parse Production.read { nodes := more, stop } () = .mismatch ()
  summand (stop : Position) :
    (link sums .product).parse Production.read { nodes := more, stop } () = .mismatch ()

namespace Bars

variable {more : List (Node Value)} (h : Bars more)
include h

theorem steady_operand : (Phrase.production Production.operand).Steady more := fun _ valid =>
  .of_passes valid Single.operand.passes Single.operand.nothing h.operand
    (Single.operand.steadyAt valid)

/-- A power is followed by its exponent, whose own exponent is further on. -/
theorem steady_power : (Phrase.production Production.power).Steady more := by
  intro c valid
  induction left : c.steps using Nat.strong_induction_on generalizing c with
  | h steps ih =>
    refine Phrase.SteadyAt.production valid
      (.seq (.map _ (h.steady_operand c valid)) fun g d first => ?_)
    obtain ⟨valid', -, before⟩ := Phrase.parse_goes Production.read_goes _ valid first
    have less := (before rfl).steps_lt valid valid'
    refine .optional (.of_passes valid' (.seq (.map _ (.terminal _)) _) (fun stop => ?_)
      h.raised fun inside => ?_)
    · simp
    · refine .seq (.map _ (Parse.SteadyAt.terminal valid' inside _)) fun g' e second => ?_
      obtain ⟨valid'', reaches, -⟩ := Phrase.parse_goes Production.read_goes _ valid' second
      have le := reaches.steps_le valid' valid''
      exact ih e.steps (by omega) e valid'' rfl

end Bars

section

variable {more : List (Node Value)} {n part : Production Expr} {ops : Phrase Production Operator}
  {level : Nat}

theorem Chains.steady_link (chains : Chains n part ops level) (passes : ops.Passes)
    (inside : ∀ c : Cursor, c.Valid → ¬ c.AtEnd → ops.SteadyAt more c)
    (steady : (Phrase.production part).Steady more)
    (refuses : ∀ stop,
      (link ops part).parse Production.read { nodes := more, stop } () = .mismatch ()) :
    (link ops part).Steady more := by
  intro c valid
  refine .of_passes valid (passes_link passes part) (fun stop => ?_) refuses fun here => ?_
  · simp [link, chains.refuses .nil]
  · refine Phrase.SteadyAt.seq (.map _ (inside c valid here)) fun g d first => ?_
    exact steady d (Phrase.parse_goes Production.read_goes _ valid first).1

theorem Chains.steady (chains : Chains n part ops level)
    (first : (Phrase.production part).Steady more) (more' : (link ops part).Steady more) :
    (Phrase.production n).Steady more := by
  intro c valid
  refine Phrase.SteadyAt.production valid ?_
  rw [chains.phrase]
  refine .seq (.map _ (first c valid)) fun g d ok => ?_
  have consumes : (link ops part).consumes := by simp [link]
  exact more'.many consumes d (Phrase.parse_goes Production.read_goes _ valid ok).1

end

namespace Bars

variable {more : List (Node Value)} (h : Bars more)
include h

theorem steady_product : (Phrase.production Production.product).Steady more := by
  refine chains_product.steady h.steady_power (chains_product.steady_link passes_products
    (fun c valid inside => ?_) h.steady_power h.factor)
  have operator (symbol : String) (op : Operator) :
      (Production.operator symbol op).SteadyAt more c := steadyAt_operator valid inside symbol op
  exact .orElse (operator _ _) (.orElse (operator _ _) (.orElse (operator _ _) fun _ => rfl))

/-- An expression is read in the same way if such nodes follow. -/
theorem steady_expr : (Phrase.production Production.expr).Steady more := by
  refine chains_expr.steady h.steady_product (chains_expr.steady_link passes_sums
    (fun c valid inside => ?_) h.steady_product h.summand)
  have operator (symbol : String) (op : Operator) :
      (Production.operator symbol op).SteadyAt more c := steadyAt_operator valid inside symbol op
  exact .orElse (operator _ _) (.orElse (operator _ _) fun _ => rfl)

end Bars

/-! ## What an expression ends before -/

/-- The symbols of the operators of expressions. -/
def Operator.symbols : List String := [add, sub, mul, div, rem, pow].map symbol

/-- What is read, if anything, is the front of a symbol. -/
def Phrase.Splits {α : Type} (p : Phrase Production α) (c : Cursor) : Prop :=
  p.parse Production.read c () = .mismatch () ∨
    ∃ a d, p.parse Production.read c () = .ok a d () ∧ d.Valid ∧ d.split ≠ 0

namespace Phrase.Splits

variable {α β : Type} {c : Cursor}

theorem symbol {t : Token Value} {ns : List (Node Value)} {stop : Position} {text : String}
    (isSymbol : t.isSymbol) (some : text ≠ "") (other : t.text ≠ text) :
    (Phrase.symbol text).Splits { nodes := .token t :: ns, stop } := by
  let c : Cursor := { nodes := .token t :: ns, stop }
  have here : c.skipLines = c := Cursor.skipLines_symbol isSymbol
  unfold Splits
  change Parse.terminal (.symbol text) c () = _ ∨ ∃ a d, Parse.terminal (.symbol text) c () = _ ∧ _
  rw [Parse.terminal, here, Parse.terminal?_symbol rfl]
  by_cases fits : t.isSymbol && text.toList.isPrefixOf (c.rest t)
  · have front : text.toList <+: t.text.toList :=
      List.isPrefixOf_iff_prefix.mp (Bool.and_eq_true_iff.mp fits).2
    have less : text.length < t.text.length := by
      have le := front.length_le
      rw [String.length_toList, String.length_toList] at le
      refine Nat.lt_of_le_of_ne le fun same => other ?_
      have whole := front.eq_of_length (by rw [String.length_toList, String.length_toList, same])
      exact (String.toList_inj.mp whole).symm
    have inside : ¬ t.text.length ≤ c.split + text.length := by
      change ¬ t.text.length ≤ 0 + text.length
      omega
    have pos : c.split + text.length ≠ 0 := by
      change 0 + text.length ≠ 0
      rw [Nat.zero_add, ← String.length_toList, Ne, List.length_eq_zero_iff,
        String.toList_eq_nil_iff]
      exact some
    rw [if_pos fits, if_neg inside]
    exact .inr ⟨(), _, rfl, .inr ⟨t, ns, rfl, isSymbol, Nat.lt_of_not_le inside⟩, pos⟩
  · rw [if_neg fits]
    exact .inl rfl

theorem map {p : Phrase Production α} (g : α → β) (h : p.Splits c) : (g <$> p).Splits c := by
  rcases h with none | ⟨a, d, ok, valid, split⟩
  · exact .inl (by simp only [map_eq, parse_seq, parse_pure, Parse.andThen, none])
  · refine .inr ⟨g a, d, ?_, valid, split⟩
    simp only [map_eq, parse_seq, parse_pure, Parse.andThen, ok]

theorem orElse {p q : Phrase Production α} (hp : p.Splits c) (hq : q.Splits c) :
    (Phrase.orElse p q).Splits c := by
  rcases hp with none | ⟨a, d, ok, valid, split⟩
  · unfold Splits
    simp only [Phrase.orElse, parse_choose, Parse.either, none]
    exact hq
  · refine .inr ⟨a, d, ?_, valid, split⟩
    simp only [Phrase.orElse, parse_choose, Parse.either, ok]
    rfl

/-- Inside a symbol nothing more is read. -/
theorem seq {p : Phrase Production (α → β)} {n : Production α} (h : p.Splits c)
    (stuck : ∀ d : Cursor, d.Valid → d.Stuck → n.read d () = .mismatch ()) :
    (Phrase.seq p (.production n)).parse Production.read c () = .mismatch () := by
  rcases h with none | ⟨a, d, ok, valid, split⟩
  · simp only [parse_seq, Parse.andThen, none]
  · simp only [parse_seq, parse_production, Parse.andThen, ok, stuck d valid (valid.stuck split)]

end Phrase.Splits

section

variable {c : Cursor} (valid : c.Valid)
  (none : (Phrase.production Production.operand).parse Production.read c () = .mismatch ())
include valid none

/-- Every expression begins with an operand. -/
theorem power_mismatch : Production.power.read c () = .mismatch () := by
  rw [Phrase.parse_production] at none
  rw [Production.power.read_eq valid]
  simp [none]

theorem product_mismatch : Production.product.read c () = .mismatch () := by
  rw [Production.product.read_eq valid]
  simp [power_mismatch valid none]

theorem expr_mismatch : Production.expr.read c () = .mismatch () := by
  rw [Production.expr.read_eq valid]
  simp [product_mismatch valid none]

end

section

variable {t : Token Value} {ns : List (Node Value)}

theorem Bars.of_symbol (symbol : t.isSymbol) (other : t.text ∉ Operator.symbols) :
    Bars (.token t :: ns) := by
  have stuck (stop : Position) : Cursor.Stuck { nodes := .token t :: ns, stop } :=
    Cursor.stuck_of_symbol (congrArg Cursor.nodes (Cursor.skipLines_symbol symbol)) symbol
  have reads (op : Operator) (stop : Position) :
      (Phrase.symbol op.symbol).Splits { nodes := .token t :: ns, stop } := by
    refine .symbol symbol (by cases op <;> decide) fun same => other ?_
    cases op <;> exact same ▸ by decide
  have splits {stop : Position} (op : Operator) :
      (Production.operator op.symbol op).Splits { nodes := .token t :: ns, stop } :=
    .map _ (reads op stop)
  constructor
  · exact fun stop => Single.operand.stuck (.inl rfl) (stuck stop)
  · intro stop
    exact Phrase.Splits.seq (.map _ (reads .pow stop)) fun d valid none =>
      power_mismatch valid (Single.operand.stuck valid none)
  · intro stop
    refine Phrase.Splits.seq (.map _ (.orElse (splits .mul) (.orElse (splits .div)
      (.orElse (splits .rem) (.inl rfl))))) fun d valid none => ?_
    exact power_mismatch valid (Single.operand.stuck valid none)
  · intro stop
    refine Phrase.Splits.seq (.map _ (.orElse (splits .add) (.orElse (splits .sub) (.inl rfl))))
      fun d valid none => ?_
    exact product_mismatch valid (Single.operand.stuck valid none)

theorem Bars.of_operator {text : String} {place : Position} (other : text ∉ Operator.symbols) :
    Bars (.token ⟨.operator, text, place⟩ :: ns) :=
  .of_symbol rfl other

theorem Bars.of_word {text : String} {place : Position} (other : text ∈ ["in", "not", "is"]) :
    Bars (.token ⟨.identifier, text, place⟩ :: ns) where
  operand stop := by
    simp only [List.mem_cons, List.not_mem_nil, or_false] at other
    rcases other with rfl | rfl | rfl <;> simp [keywords]
  raised stop := by simp [raising]
  factor stop := by simp [link, products]
  summand stop := by simp [link, sums]

theorem Bars.nil : Bars [] where
  operand := Single.operand.nothing
  raised stop := by simp [raising]
  factor stop := by simp [link, products]
  summand stop := by simp [link, sums]

/-- Line breaks before such nodes do not matter. -/
theorem Bars.lines {lines more : List (Node Value)} (all : ∀ n ∈ lines, n.isLine) (h : Bars more) :
    Bars (lines ++ more) where
  operand stop := (Single.operand.passes.lines all more stop).trans (h.operand stop)
  raised stop := by
    have passes : raising.Passes := .seq (.map _ (.terminal _)) _
    exact (passes.lines all more stop).trans (h.raised stop)
  factor stop := ((passes_link passes_products .power).lines all more stop).trans (h.factor stop)
  summand stop := ((passes_link passes_sums .product).lines all more stop).trans (h.summand stop)

/-- A symbol that is read and that no operator begins with is such a node. -/
theorem Bars.of_terminal {ns : List (Node Value)} {text : String} {stop : Position} {c : Cursor}
    (other : ∀ symbol ∈ Operator.symbols, ¬ text.toList <+: symbol.toList)
    (ok : Parse.terminal (.symbol text) { nodes := ns, stop } () = .ok () c ()) : Bars ns := by
  have some : Parse.terminal? (Cursor.skipLines { nodes := ns, stop }) (.symbol text) ≠ none := by
    intro none
    rw [Parse.terminal, none] at ok
    cases ok
  obtain ⟨t, front⟩ : ∃ t, (Cursor.skipLines { nodes := ns, stop }).token? = .some t := by
    rw [← Option.ne_none_iff_exists']
    intro none
    exact some (by simp only [Parse.terminal?, none]; rfl)
  rw [Parse.terminal?_symbol front] at some
  obtain ⟨symbol, starts⟩ := Bool.and_eq_true_iff.mp (ite_ne_right_iff.mp some).1
  obtain ⟨rest, nodes⟩ := Cursor.nodes_of_token? front
  have bars : Bars (.token t :: rest) :=
    .of_symbol symbol fun mem => other _ mem (List.isPrefixOf_iff_prefix.mp starts)
  have split : ns = ns.takeWhile (·.isLine) ++ .token t :: rest := by
    rw [← nodes]
    exact List.takeWhile_append_dropWhile.symm
  rw [split]
  exact bars.lines fun _ => List.mem_takeWhile_imp

theorem Chains.of_part {n part : Production Expr} {ops : Phrase Production Operator} {level : Nat}
    (chains : Chains n part ops level) {c d : Cursor} (valid : c.Valid) {x : Expr}
    (ok : part.read c () = .ok x d ())
    (none : (link ops part).parse Production.read d () = .mismatch ()) :
    n.read c () = .ok x d () := by
  have consumes : (link ops part).consumes := by simp [link]
  have valid' := (part.read_goes valid ok).1
  have tail : (Phrase.many (link ops part)).parse Production.read d () = .ok [] d () := by
    rw [Phrase.parse_many consumes valid', Parse.either, none]
  rw [n.read_eq valid, chains.phrase]
  simp only [Phrase.map_eq, Phrase.seq_eq, Phrase.parse_seq, Phrase.parse_pure,
    Phrase.parse_production, Parse.andThen, ok, tail]
  rfl

/-- Before such nodes an operand is an expression. -/
theorem Bars.expr_of_operand {more : List (Node Value)} (h : Bars more) {c : Cursor}
    (valid : c.Valid) {x : Expr} {stop : Position}
    (ok : Production.operand.read c () = .ok x { nodes := more, stop } ()) :
    Production.expr.read c () = .ok x { nodes := more, stop } () := by
  have none : (Phrase.optional raising).parse Production.read { nodes := more, stop } () =
      .ok none { nodes := more, stop } () := by
    rw [Phrase.optional, Phrase.parse_choose, Parse.either, h.raised stop]
    rfl
  have power : Production.power.read c () = .ok x { nodes := more, stop } () := by
    rw [Production.power.read_eq valid]
    change (Phrase.seq (.seq (.pure _) (.production .operand)) (.optional raising)).parse
      Production.read c () = _
    simp only [Phrase.parse_seq, Phrase.parse_pure, Phrase.parse_production, Parse.andThen, ok,
      none]
    rfl
  exact chains_expr.of_part valid (chains_product.of_part valid power (h.factor stop))
    (h.summand stop)

/-- A sequence begins with its first part. -/
theorem Phrase.head_ok {α β γ : Type} {g : α → β → γ} {p : Phrase Production α}
    {q : Phrase Production β} {c d : Cursor} {v : γ}
    (ok : (Phrase.seq (.seq (.pure g) p) q).parse Production.read c () = .ok v d ()) :
    ∃ a e, p.parse Production.read c () = .ok a e () := by
  rw [parse_seq, parse_seq, parse_pure] at ok
  obtain ⟨h, b, _, first, -⟩ := Parse.andThen_ok ok
  obtain ⟨a, e, _, here, -⟩ := Parse.andThen_ok (p := p.parse Production.read) first
  exact ⟨a, e, here⟩

theorem Chains.first_ok {n part : Production Expr} {ops : Phrase Production Operator} {level : Nat}
    (chains : Chains n part ops level) {c d : Cursor} (valid : c.Valid) {x : Expr}
    (ok : n.read c () = .ok x d ()) : ∃ y e, part.read c () = .ok y e () := by
  rw [n.read_eq valid, chains.phrase, Phrase.map_eq, Phrase.seq_eq] at ok
  obtain ⟨y, e, here⟩ := Phrase.head_ok ok
  rw [Phrase.parse_production] at here
  exact ⟨y, e, here⟩
/-- An expression begins with an operand, which is one node. -/
theorem operand_of_expr {c d : Cursor} (valid : c.Valid) {x : Expr}
    (ok : Production.expr.read c () = .ok x d ()) :
    ∃ y, Production.operand.read c () = .ok y c.skipLines.next () := by
  obtain ⟨_, _, product⟩ := chains_expr.first_ok valid ok
  obtain ⟨_, _, power⟩ := chains_product.first_ok valid product
  rw [Production.power.read_eq valid] at power
  obtain ⟨y, e, first⟩ := Phrase.head_ok (p := .production .operand) (q := .optional raising) power
  obtain rfl := Single.operand.next valid first
  rw [Phrase.parse_production] at first
  exact ⟨y, first⟩

/-- The nodes are an expression by themselves. -/
def ReadsAlone (ns : List (Node Value)) (x : Expr) : Prop :=
  ∃ stop d, Production.expr.read { nodes := ns, stop } () = .ok x d () ∧ d.AtEnd

theorem ReadsAlone.of_reads {ns : List (Node Value)} {x : Expr} (h : Reads .expr 0 ns x) :
    ReadsAlone ns x := by
  have read := h.reads [] .start .nil
  rw [List.append_nil] at read
  exact ⟨.start, _, read, rfl⟩

/-- They are so too with other nodes behind them. -/
theorem ReadsAlone.followed {ns more : List (Node Value)} {x : Expr} (h : ReadsAlone ns x)
    (bars : Bars more) (stop : Position) : ∃ lines, (∀ n ∈ lines, Node.isLine n) ∧
      Production.expr.read { nodes := ns ++ more, stop } () =
        .ok x { nodes := lines ++ more, stop } () := by
  obtain ⟨stop', d, read, atEnd⟩ := h
  have unsplit := atEnd.split_eq_zero (Production.expr.read_goes (.inl rfl) read).1
  have same := bars.steady_expr { nodes := ns, stop := stop' } (.inl rfl) stop
  rw [Phrase.parse_production, read] at same
  obtain ⟨lines, split, place⟩ := d
  obtain rfl : split = 0 := unsplit
  exact ⟨lines, List.dropWhile_eq_nil_iff.mp atEnd, same⟩

/-- The nodes after the first that is no line break. -/
def afterFirst (ns : List (Node Value)) : List (Node Value) := (ns.dropWhile (·.isLine)).tail

/-- An expression does not go on with such nodes. -/
theorem ReadsAlone.ends {ns : List (Node Value)} {x : Expr} (h : ReadsAlone ns x)
    (bars : Bars (afterFirst ns)) : ∀ n ∈ afterFirst ns, n.isLine := by
  obtain ⟨stop, d, read, atEnd⟩ := h
  -- Before such nodes the first operand is all that is read, and all is read.
  obtain ⟨y, first⟩ := operand_of_expr (.inl rfl) read
  have whole : Production.expr.read { nodes := ns, stop } () =
      .ok y { nodes := afterFirst ns, stop } () := bars.expr_of_operand (.inl rfl) first
  rw [read] at whole
  obtain ⟨-, rfl, -⟩ := Reply.ok.inj whole
  exact List.dropWhile_eq_nil_iff.mp atEnd

end

end RuleMachine
