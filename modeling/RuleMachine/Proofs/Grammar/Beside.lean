import RuleMachine.Proofs.Grammar.Order

/-!
# Runs beside each other

Two runs are compared, over some nodes and over the same nodes with one line break more
(`Inserted`). Their cursors stand at corresponding places (`Cursor.Beside`), and a cursor is firm if
the node that it has just passed is no symbol. Every reader skips line breaks, so that it comes to
the same in both runs (`Parse.Beside`); the fields of a tagged form alone are ended by one. They are
looked for from firm cursors only: there a line break that was put in ends the fields, and without
it what comes next is no field.

The furthest places of the two runs may differ while they are not after what comes next
(`Furthest.Near`): one run may have asked for something in front of the line break. They are the
same again where reading fails.
-/

namespace RuleMachine

namespace Node

def isSymbol : Node Value → Bool
  | .token t => t.isSymbol
  | .group .. => false

/-- Whether a field may begin with the node: a name or a string. -/
def isKey : Node Value → Bool
  | .token t => (Terminal.name.value? t).isSome || (Terminal.quoted.value? t).isSome
  | .group .. => false

end Node

/-- `ns'` are the nodes `ns`, or these with a line break at one more place, in them or in a group.
There is no symbol in front of the nodes if `firm`; behind a node that is no symbol the line break
does not come before what a field may begin with. -/
inductive Inserted (line : Token Value) : Bool → List (Node Value) → List (Node Value) → Prop
  | none {firm : Bool} {ns} : Inserted line firm ns ns
  | here {firm : Bool} {ns} : (firm → ∀ n ∈ ns.head?, n.isKey = false) →
      Inserted line firm ns (.token line :: ns)
  | later {firm : Bool} {n ns ns'} : Inserted line (!n.isSymbol) ns ns' →
      Inserted line firm (n :: ns) (n :: ns')
  | inside {firm : Bool} {opener closer children children' ns} :
      Inserted line false children children' →
      Inserted line firm (.group opener closer children :: ns)
        (.group opener closer children' :: ns)

namespace Inserted

variable {line : Token Value} {firm : Bool} {ns ns' : List (Node Value)}

theorem weaken (h : Inserted line firm ns ns') : Inserted line false ns ns' := by
  cases h with
  | none => exact .none
  | here => exact .here nofun
  | later h => exact .later h
  | inside h => exact .inside h

/-- The line break may be between any two lists of nodes, the first of which ends with a symbol or
the second of which does not begin with a key. -/
theorem between (before : List (Node Value)) {after : List (Node Value)}
    (h : before.getLast?.elim firm (!·.isSymbol) = true → ∀ n ∈ after.head?, n.isKey = false) :
    Inserted line firm (before ++ after) (before ++ .token line :: after) := by
  induction before generalizing firm with
  | nil => exact .here h
  | cons n ns ih =>
    refine .later (ih fun last => h ?_)
    rw [List.getLast?_cons]
    revert last
    cases ns.getLast? <;> exact id

theorem inOrder {stop : Position} (h : Inserted line firm ns ns')
    (order : Node.allInOrder stop ns') :
    Node.allInOrder stop ns ∧ (Node.front stop ns').Le (Node.front stop ns) := by
  induction h generalizing stop with
  | none => exact ⟨order, .refl _⟩
  | here =>
    rw [Node.allInOrder] at order
    exact ⟨order.2, Node.position_le order.1⟩
  | later _ ih =>
    rw [Node.allInOrder] at order ⊢
    obtain ⟨rest, le⟩ := ih order.2
    exact ⟨⟨order.1.mono le, rest⟩, .refl _⟩
  | inside _ ih =>
    rw [Node.allInOrder, Node.inOrder] at order ⊢
    obtain ⟨⟨opens, inside, closes⟩, rest⟩ := order
    obtain ⟨inside, le⟩ := ih inside
    exact ⟨⟨⟨opens.trans le, inside, closes⟩, rest⟩, .refl _⟩

end Inserted

/-- Nodes that begin with the same node, or with the same group but for a line break in it. -/
inductive Aligned (line : Token Value) : List (Node Value) → List (Node Value) → Prop
  | nil : Aligned line [] []
  | token {t rest rest'} : Inserted line (!t.isSymbol) rest rest' →
      Aligned line (.token t :: rest) (.token t :: rest')
  | group {opener closer children children' rest rest'} : Inserted line false children children' →
      Inserted line true rest rest' →
      Aligned line (.group opener closer children :: rest) (.group opener closer children' :: rest')

theorem Aligned.refl (line : Token Value) (ns : List (Node Value)) : Aligned line ns ns := by
  rcases ns with _ | ⟨_ | _, _⟩
  · exact .nil
  · exact .token .none
  · exact .group .none .none

/-- Past their line breaks the nodes are aligned. -/
theorem Inserted.dropWhile {line : Token Value} (isLine : line.isLine) {firm : Bool}
    {ns ns' : List (Node Value)} (h : Inserted line firm ns ns') (firm' : Bool) :
    Aligned line (ns.dropWhile (·.isLine)) (ns'.dropWhile (·.isLine)) ∧
      Inserted line firm' (ns.dropWhile (·.isLine)) (ns'.dropWhile (·.isLine)) := by
  induction h with
  | none => exact ⟨.refl line _, .none⟩
  | here =>
    have passed : (Node.token line).isLine := isLine
    rw [List.dropWhile_cons_of_pos passed]
    exact ⟨.refl line _, .none⟩
  | @later _ n ns ns' h ih =>
    cases passed : n.isLine with
    | true => simpa only [List.dropWhile_cons, passed, if_true] using ih
    | false =>
      simp only [List.dropWhile_cons, passed, Bool.false_eq_true, if_false]
      cases n with
      | token t => exact ⟨.token h, .later h⟩
      | group => exact ⟨.group .none h, .later h⟩
  | inside h => exact ⟨.group h .none, .inside h⟩

/-- Cursors at corresponding places, without a line break and with it. -/
structure Cursor.Beside (line : Token Value) (ordered : Prop) (firm : Bool) (c c' : Cursor) :
    Prop where
  nodes : Inserted line firm c.nodes c'.nodes
  split : c'.split = c.split
  stop : c'.stop = c.stop
  valid : c.Valid
  valid' : c'.Valid
  order : ordered → c'.InOrder

namespace Cursor.Beside

variable {line : Token Value} {ordered : Prop} {firm : Bool} {c c' : Cursor}

theorem weaken (h : Beside line ordered firm c c') : Beside line ordered false c c' :=
  { h with nodes := h.nodes.weaken }

theorem order_left (h : Beside line ordered firm c c') (o : ordered) : c.InOrder :=
  (h.nodes.inOrder (h.stop ▸ h.order o)).1

variable (isLine : line.isLine)
include isLine

/-- Inside a symbol there is no line break in front. -/
theorem front (h : Beside line ordered firm c c') (firm' : Bool) :
    Aligned line c.skipLines.nodes c'.skipLines.nodes ∧
      Inserted line firm' c.skipLines.nodes c'.skipLines.nodes := by
  unfold Cursor.skipLines
  rw [h.split]
  split
  · exact h.nodes.dropWhile isLine firm'
  next inside =>
  obtain ⟨t, rest', front', symbol, -⟩ := h.valid'.resolve_left (h.split ▸ inside)
  have nodes := h.nodes
  rw [front'] at nodes ⊢
  generalize c.nodes = ns at nodes
  cases nodes with
  | none => exact ⟨.refl line _, .none⟩
  | here => exact absurd (line.not_isSymbol_of_isLine isLine) (by simp [symbol])
  | later nodes => exact ⟨.token nodes, .later nodes⟩

theorem skipLines (h : Beside line ordered firm c c') (firm' : Bool) :
    Beside line ordered firm' c.skipLines c'.skipLines where
  nodes := (h.front isLine firm').2
  split := by
    unfold Cursor.skipLines
    split <;> split <;> exact h.split
  stop := by
    unfold Cursor.skipLines
    split <;> split <;> exact h.stop
  valid := h.valid.skipLines
  valid' := h.valid'.skipLines
  order o := (h.order o).skipLines

theorem position_skipLines (h : Beside line ordered firm c c') :
    c'.skipLines.position = c.reached := by
  have after := h.skipLines isLine false
  have front := (h.front isLine false).1
  unfold reached position
  generalize c.skipLines.nodes = ns at front ⊢
  generalize c'.skipLines.nodes = ns' at front ⊢
  cases front with
  | nil => exact after.stop
  | token => simp only [after.split]
  | group => rfl

theorem token?_skipLines (h : Beside line ordered firm c c') :
    c'.skipLines.token? = c.skipLines.token? := by
  have front := (h.front isLine false).1
  unfold token?
  generalize c.skipLines.nodes = ns at front ⊢
  generalize c'.skipLines.nodes = ns' at front ⊢
  cases front <;> rfl

theorem isEmpty_skipLines (h : Beside line ordered firm c c') :
    c'.skipLines.nodes.isEmpty = c.skipLines.nodes.isEmpty := by
  have front := (h.front isLine false).1
  generalize c.skipLines.nodes = ns at front ⊢
  generalize c'.skipLines.nodes = ns' at front ⊢
  cases front <;> rfl

/-- A token that is passed by both is in front of what is left. -/
theorem next (h : Beside line ordered firm c c') {t : Token Value}
    (front : c.skipLines.token? = some t) :
    Beside line ordered (!t.isSymbol) c.skipLines.next c'.skipLines.next := by
  have after := h.skipLines isLine false
  have aligned := (h.front isLine false).1
  obtain ⟨rest, nodes⟩ := nodes_of_token? front
  refine ⟨?_, rfl, after.stop, .next _, .next _, fun o => (after.order o).next⟩
  unfold Cursor.next
  rw [nodes] at aligned ⊢
  generalize c'.skipLines.nodes = ns' at aligned ⊢
  cases aligned with
  | token rest => exact rest

end Cursor.Beside

/-! ## Readers -/

/-- What is known of the furthest places of two runs: that they are near, the same, or the same and
not before what comes next. -/
inductive Notice where
  | near
  | same
  | asked
  deriving DecidableEq

def Notice.Holds (m : Position) (f f' : Furthest) : Notice → Prop
  | near => Furthest.Near m f f'
  | same => f.place = f'.place
  | asked => f.place = f'.place ∧ f.Asked m

theorem Notice.Holds.near {m : Position} {f f' : Furthest} {k : Notice} (h : k.Holds m f f') :
    Furthest.Near m f f' := by
  cases k with
  | near => exact h
  | same => exact .inl h
  | asked => exact .inl h.1

/-- Replies of two runs that come to the same. Where the first is cut off nothing is said. -/
inductive Reply.Beside (line : Token Value) (ordered : Prop) (firm : Bool) {α : Type} :
    Reply Furthest α → Reply Furthest α → Prop
  | ok (a : α) {d d' g g'} : Cursor.Beside line ordered firm d d' →
      (ordered → Furthest.Near d.reached g g') → Beside line ordered firm (.ok a d g) (.ok a d' g')
  | mismatch {g g'} : (ordered → g.place = g'.place) →
      Beside line ordered firm (.mismatch g) (.mismatch g')
  | fatal (e : ParseError) : Beside line ordered firm (.fatal e) (.fatal e)
  | exhausted (r : Reply Furthest α) : Beside line ordered firm .exhausted r

namespace Parse

variable {line : Token Value} {ordered : Prop} {α β : Type} {b e e' strict : Bool} {k : Notice}
  {c c' : Cursor} {f f' : Furthest} {p : Parse Furthest α} {q : α → Parse Furthest β}

/-- A reader that comes to the same from cursors beside each other, firm ones if `b`; the cursors
that it leads to are firm if `e`. -/
def Beside (line : Token Value) (ordered : Prop) (b : Bool) (k : Notice) (e : Bool)
    (p : Parse Furthest α) : Prop :=
  ∀ ⦃c c' f f'⦄, Cursor.Beside line ordered b c c' → (ordered → k.Holds c.reached f f') →
    Reply.Beside line ordered e (p c f) (p c' f')

theorem Beside.pure (a : α) : Beside line ordered b k b fun c f => .ok a c f :=
  fun _ _ _ _ beside noted => .ok a beside fun o => (noted o).near

/-- From cursors that are not firm is from all. -/
theorem Beside.of_loose (h : Beside line ordered false k e p) : Beside line ordered b k e p :=
  fun _ _ _ _ beside noted => h beside.weaken noted

theorem Beside.of_near (h : Beside line ordered b .near e p) : Beside line ordered b k e p :=
  fun _ _ _ _ beside noted => h beside fun o => (noted o).near

theorem Beside.weaken (h : Beside line ordered b k e p) (le : e' → e) :
    Beside line ordered b k e' p := by
  intro c c' f f' beside noted
  have reply := h beside noted
  generalize p c f = r at reply ⊢
  generalize p c' f' = r' at reply ⊢
  cases reply with
  | ok a beside noted =>
    cases e' with
    | false => exact .ok a beside.weaken noted
    | true => exact .ok a (le rfl ▸ beside) noted
  | mismatch same => exact .mismatch same
  | fatal error => exact .fatal error
  | exhausted => exact .exhausted _

theorem Beside.andThen (hp : Beside line ordered b k e p)
    (hq : ∀ a, Beside line ordered e .near e' (q a)) :
    Beside line ordered b k e' (andThen p q) := by
  intro c c' f f' beside noted
  have first := hp beside noted
  unfold Parse.andThen
  generalize p c f = r at first
  generalize p c' f' = r' at first
  cases first with
  | ok a beside noted => exact hq a beside noted
  | mismatch same => exact .mismatch same
  | fatal e => exact .fatal e
  | exhausted => exact .exhausted _

/-- Where `p` does not fit, something was asked for at the cursor. -/
def Asks (p : Parse Furthest α) : Prop := ∀ ⦃c f g⦄, p c f = .mismatch g → g.Asked c.reached

theorem Asks.terminal (x : Terminal α) : Asks (terminal x) := by
  intro c f g h
  unfold Parse.terminal at h
  split at h
  · cases h
  · cases h
    exact Furthest.asked_note _ _ _

theorem Beside.either {r : Parse Furthest β} (hp : Beside line ordered b k e p)
    (hq : ∀ a, Beside line ordered e .near e' (q a)) (s : Bool) (asks : s → Asks p)
    (hr : Beside line ordered b (bif s then .asked else .same) e' r) :
    Beside line ordered b k e' (either p q r) := by
  intro c c' f f' beside noted
  have first := hp beside noted
  unfold Parse.either
  generalize reply : p c f = r at first
  generalize p c' f' = r' at first
  cases first with
  | ok a beside noted => exact hq a beside noted
  | mismatch same =>
    refine hr beside fun o => ?_
    cases s with
    | false => exact same o
    | true => exact ⟨same o, asks rfl reply⟩
  | fatal e => exact .fatal e
  | exhausted => exact .exhausted _

theorem Beside.orElse {r : Parse Furthest β} (hp : Beside line ordered b k e p)
    (hq : ∀ a, Beside line ordered e .near e' (q a)) (hr : Beside line ordered b .same e' r) :
    Beside line ordered b k e' (Parse.either p q r) :=
  hp.either hq false nofun hr

theorem Beside.ite {q : Parse Furthest α} {s : Cursor → Bool}
    (same : ∀ {c c'}, Cursor.Beside line ordered b c c' → s c' = s c)
    (hp : Beside line ordered b k e p) (hq : Beside line ordered b k e q) :
    Beside line ordered b k e fun c f => if s c then p c f else q c f := by
  intro c c' f f' beside noted
  simp only [same beside]
  split
  · exact hp beside noted
  · exact hq beside noted

theorem Beside.fails :
    Beside line ordered b .same e fun _ f => (.mismatch f : Reply Furthest α) :=
  fun _ _ _ _ _ same => .mismatch same

theorem Beside.fatal (error : ParseError) :
    Beside line ordered b k e fun _ _ => (.fatal error : Reply Furthest α) :=
  fun _ _ _ _ _ _ => .fatal error

variable (isLine : line.isLine)
include isLine

theorem Beside.skipLines (h : Beside line ordered b k e p) :
    Beside line ordered false k e fun c => p c.skipLines :=
  fun c _ _ _ beside noted => h (beside.skipLines isLine b) (c.reached_skipLines ▸ noted)

/-- What is asked for past the line breaks is asked for by both. -/
theorem note_beside (beside : Cursor.Beside line ordered b c c') (what : String)
    (near : Furthest.Near c.reached f f') :
    (f.note c.skipLines what).place = (f'.note c'.skipLines what).place :=
  near.note (.refl _) (beside.position_skipLines isLine).symm

/-- What is asked for in front of line breaks is no news if something was asked for past them. -/
theorem Beside.want (what : String) :
    Beside line ordered b .asked e (want what : Parse Furthest α) := by
  intro c c' f f' beside noted
  refine .mismatch fun o => ?_
  obtain ⟨same, asked⟩ := noted o
  have asked' : f'.Asked c.reached := by
    unfold Furthest.Asked
    exact same ▸ asked
  have le : c'.position.Le c.reached :=
    beside.position_skipLines isLine ▸ (beside.order o).position_le_reached
  refine (asked.place_note (beside.order_left o).position_le_reached).trans ?_
  exact same.trans (asked'.place_note le).symm

theorem terminal?_beside (beside : Cursor.Beside line ordered b c c') (x : Terminal α) :
    terminal? c.skipLines x = none ∧ terminal? c'.skipLines x = none ∨
      ∃ a d d', terminal? c.skipLines x = some (a, d) ∧ terminal? c'.skipLines x = some (a, d') ∧
        Cursor.Beside line ordered x.whole d d' ∧ (ordered → c.reached.Le d.reached) := by
  have token := beside.token?_skipLines isLine
  have after := beside.skipLines isLine false
  have forward (o : ordered) : c.reached.Le c.skipLines.next.reached :=
    ((after.order_left o).position_le_next after.valid).trans
      (after.order_left o).next.position_le_reached
  by_cases whole : x.whole
  · rw [terminal?_eq after.valid whole, terminal?_eq after.valid' whole, token]
    cases value : c.skipLines.token?.bind x.value? with
    | none => exact .inl ⟨rfl, rfl⟩
    | some a =>
      obtain ⟨t, front, value⟩ := Option.bind_eq_some_iff.mp value
      have next := beside.next isLine front
      rw [x.not_isSymbol_of_value? value] at next
      exact .inr ⟨a, _, _, rfl, rfl, whole ▸ next, forward⟩
  · cases x with
    | symbol text =>
      cases front : c.skipLines.token? with
      | none => exact .inl ⟨by simp [terminal?, front], by simp [terminal?, token, front]⟩
      | some t =>
        have rest : c'.skipLines.rest t = c.skipLines.rest t := by
          simp only [Cursor.rest, after.split]
        rw [terminal?_symbol front, terminal?_symbol (token.trans front), rest, after.split]
        split
        · next fits =>
          refine .inr ⟨(), _, _, rfl, rfl, ?_⟩
          by_cases last : t.text.length ≤ c.skipLines.split + text.length
          · rw [if_pos last, if_pos last]
            exact ⟨(beside.next isLine front).weaken, forward⟩
          · rw [if_neg last, if_neg last]
            obtain ⟨rest, nodes⟩ := Cursor.nodes_of_token? front
            obtain ⟨rest', nodes'⟩ := Cursor.nodes_of_token? (token.trans front)
            have symbol := (Bool.and_eq_true_iff.mp fits).1
            have inside : Cursor.Beside line ordered false
                { c.skipLines with split := c.skipLines.split + text.length }
                { c'.skipLines with split := c.skipLines.split + text.length } :=
              { nodes := after.nodes, split := rfl, stop := after.stop, order := after.order
                valid := .inr ⟨t, rest, nodes, symbol, Nat.lt_of_not_le last⟩
                valid' := .inr ⟨t, rest', nodes', symbol, Nat.lt_of_not_le last⟩ }
            refine ⟨inside, fun o => ?_⟩
            exact (c.skipLines.position_le_split nodes text.length).trans
              (inside.order_left o).position_le_reached
        · exact .inl ⟨rfl, rfl⟩
    | _ => exact absurd rfl whole

theorem Beside.terminal (x : Terminal α) :
    Beside line ordered b .near x.whole (terminal x) := by
  intro c c' f f' beside noted
  unfold Parse.terminal
  rcases terminal?_beside isLine beside x with ⟨none, none'⟩ | ⟨a, d, d', some, some', after, le⟩
  · rw [none, none']
    exact .mismatch fun o => note_beside isLine beside _ (noted o)
  · rw [some, some']
    exact .ok a after fun o => (noted o).mono (le o)

theorem Beside.finish (what : String) :
    Beside line ordered b .near false (finish what) := by
  intro c c' f f' beside noted
  unfold Parse.finish
  rw [beside.isEmpty_skipLines isLine]
  split
  · exact .ok () (beside.skipLines isLine false) (c.reached_skipLines ▸ noted)
  · exact .mismatch fun o => note_beside isLine beside _ (noted o)

theorem Beside.group (bracket : Bracket) (goes : Goes strict p)
    (hp : Beside line ordered false .near e p) :
    Beside line ordered b .near true (group bracket p) := by
  intro c c' f f' beside noted
  have after := beside.skipLines isLine false
  have aligned := (beside.front isLine false).1
  have other (what : String) : Reply.Beside line ordered true (α := α)
      (Parse.want what c.skipLines f) (Parse.want what c'.skipLines f') :=
    .mismatch fun o => note_beside isLine beside what (noted o)
  simp only [Parse.group]
  generalize nodes : c.skipLines.nodes = ns at aligned
  generalize nodes' : c'.skipLines.nodes = ns' at aligned
  cases aligned with
  | nil => exact other _
  | token => exact other _
  | @group opener closer children children' rest rest' inside behind =>
    dsimp only
    split
    · have order (o : ordered) := (after.order_left o).children nodes
      have order' (o : ordered) := (after.order o).children nodes'
      have child : Cursor.Beside line ordered false
          { nodes := children, stop := closer.position }
          { nodes := children', stop := closer.position } :=
        ⟨inside, rfl, rfl, .inl rfl, .inl rfl, fun o => (order' o).1⟩
      have next : Cursor.Beside line ordered true c.skipLines.next c'.skipLines.next := by
        refine ⟨?_, rfl, after.stop, .next _, .next _, fun o => (after.order o).next⟩
        simpa [Cursor.next, nodes, nodes'] using behind
      have into (o : ordered) :=
        (noted o).mono ((order o).2.1.trans (order o).1.position_le_reached)
      have first := hp child into
      unfold Parse.andThen
      generalize reply : p _ f = r at first
      generalize p _ f' = r' at first
      cases first with
      | mismatch same => exact .mismatch same
      | fatal e => exact .fatal e
      | exhausted => exact .exhausted _
      | @ok a d d' g g' after' noted' =>
        simp only [Parse.finish, after'.isEmpty_skipLines isLine]
        cases all : d.skipLines.nodes.isEmpty with
        | false => exact .mismatch fun o => note_beside isLine after' _ (noted' o)
        | true =>
          refine .ok a next fun o => (noted' o).mono ?_
          have stop : d.skipLines.stop = closer.position :=
            (d.skipLines_reaches.stop_eq).trans (goes child.valid reply).2.1.stop_eq
          have here : d.reached = closer.position := by
            simp only [Cursor.reached, Cursor.position, List.isEmpty_iff.mp all, stop]
          rw [here]
          exact (order o).2.2.trans ((after.order_left o).next.position_le_reached)
    · exact other _

theorem Beside.refuse (keyword feature : String) {p : Parse Furthest Unit} {r : Parse Furthest α}
    (hp : Beside line ordered true .near e' p) (hr : Beside line ordered false .asked e r) :
    Beside line ordered b .near e (refuse keyword feature p r) := by
  intro c c' f f' beside noted
  simp only [Parse.refuse]
  rw [beside.position_skipLines isLine]
  refine Beside.either (.terminal isLine (.word keyword)) (fun _ => ?_) true
    (fun _ => .terminal _) hr (beside.skipLines isLine false) (c.reached_skipLines ▸ noted)
  exact hp.andThen fun _ => .fatal _

theorem Beside.commaRest (hp : Beside line ordered false .near e p) (fuel : Nat) :
    Beside line ordered b .near false (commaRest p fuel) := by
  induction fuel generalizing b with
  | zero => exact (Beside.pure []).of_loose
  | succ fuel ih =>
    refine Beside.orElse (.terminal isLine (.symbol ",")) (fun _ => ?_) (Beside.pure []).of_loose
    refine .ite (fun beside => beside.isEmpty_skipLines isLine) ?_ ?_
    · exact (Beside.pure []).skipLines isLine
    · exact (hp.andThen fun a => ih.andThen fun as => .pure (a :: as)).skipLines isLine

omit isLine in
/-- Each run has fuel for its own nodes; both have enough for the longer of the two. -/
theorem Beside.enough {loop : Nat → Parse Furthest α}
    (enough : ∀ {c fuel fuel'}, c.Valid → c.steps ≤ fuel → c.steps ≤ fuel' →
      ∀ f, loop fuel c f = loop fuel' c f)
    (h : ∀ fuel, Beside line ordered b k e (loop fuel)) :
    Beside line ordered b k e fun c => loop c.steps c := by
  intro c c' f f' beside noted
  dsimp only
  rw [enough beside.valid (Nat.le_refl _) (Nat.le_max_left c.steps c'.steps),
    enough beside.valid' (Nat.le_refl _) (Nat.le_max_right c.steps c'.steps)]
  exact h _ beside noted

theorem Beside.commaList (goes : Goes strict p) (hp : Beside line ordered false .near e p) :
    Beside line ordered b .near false (commaList p) := by
  refine Beside.of_loose (.ite (fun beside => beside.isEmpty_skipLines isLine) ?_ ?_)
  · exact (Beside.pure []).skipLines isLine
  refine Beside.skipLines isLine (b := false) (p := Parse.andThen p fun a c =>
    Parse.andThen (Parse.commaRest p c.steps) (fun as c f => .ok (a :: as) c f) c) ?_
  refine hp.andThen fun a => Beside.enough
    (fun valid enough enough' f =>
      andThen_congr (commaRest_enough goes valid enough enough' f) _) ?_
  exact fun fuel => (Beside.commaRest isLine hp fuel).andThen fun as => .pure (a :: as)

omit isLine in
theorem Beside.many (goes : Goes true p) (hp : Beside line ordered false .near e p) :
    Beside line ordered b k (b && e) fun c => many p c.steps c := by
  refine Beside.enough (many_enough goes) fun fuel => ?_
  -- An item leads to firm cursors if `e`; before the first item they are if `b`.
  have loop (b : Bool) (k : Notice) : Beside line ordered b k (b && e) (Parse.many p fuel) := by
    induction fuel generalizing b k with
    | zero => exact (Beside.pure []).weaken fun both => (Bool.and_eq_true_iff.mp both).1
    | succ fuel ih =>
      intro c c' f f' beside noted
      rw [many_succ goes beside.valid, many_succ goes beside.valid']
      refine Beside.orElse hp.of_loose.of_near (fun a => ?_) ?_ beside noted
      · refine ((ih e .near).andThen fun as => .pure (a :: as)).weaken fun both => ?_
        simpa using (Bool.and_eq_true_iff.mp both).2
      · exact (Beside.pure []).weaken fun both => (Bool.and_eq_true_iff.mp both).1
  exact loop b k

/-- Where no field may begin, `p` does not fit, and what it asks for is asked for there. -/
def NeedsKey (p : Parse Furthest α) : Prop :=
  ∀ ⦃c f⦄, c.Valid → (∀ n ∈ c.skipLines.nodes.head?, n.isKey = false) → p c f = .exhausted ∨
    ∃ g, p c f = .mismatch g ∧ ∀ f', Furthest.Near c.reached f f' → Furthest.Near c.reached g f'

/-- Fields are looked for from firm cursors. With a line break in front they end, and without it
none begins. -/
theorem Beside.lineList (goes : Goes true p) (hp : Beside line ordered false .near true p)
    (needs : NeedsKey p) : Beside line ordered true k true fun c => lineList p c.steps c := by
  refine Beside.enough (lineList_enough goes) fun fuel => ?_
  induction fuel generalizing k with
  | zero => exact .pure []
  | succ fuel ih =>
    intro c c' f f' beside noted
    have both (same : c'.atLineOrEnd = c.atLineOrEnd) : Reply.Beside line ordered true
        (Parse.lineList p (fuel + 1) c f) (Parse.lineList p (fuel + 1) c' f') := by
      simp only [Parse.lineList, same]
      split
      · exact .ok [] beside fun o => (noted o).near
      · exact Beside.orElse hp.of_loose.of_near (fun a => ih.andThen fun as => .pure (a :: as))
          (.pure []) beside noted
    have nodes := beside.nodes
    generalize here : c.nodes = ns at nodes
    generalize here' : c'.nodes = ns' at nodes
    cases nodes with
    | none => exact both (by simp only [Cursor.atLineOrEnd, beside.split, here, here'])
    | later => exact both (by simp only [Cursor.atLineOrEnd, beside.split, here, here'])
    | inside => exact both (by simp only [Cursor.atLineOrEnd, beside.split, here, here']; rfl)
    | here key =>
      have ends : c'.atLineOrEnd := by
        have unsplit : c'.split = 0 := beside.valid'.split_eq_zero (by rw [Cursor.token?, here'])
          (line.not_isSymbol_of_isLine isLine)
        simp [Cursor.atLineOrEnd, unsplit, here', Node.isLine, isLine]
      simp only [Parse.lineList, ends, if_true]
      split
      · exact .ok [] beside fun o => (noted o).near
      next inLine =>
      have none : ∀ n ∈ c.skipLines.nodes.head?, n.isKey = false := by
        rw [c.skipLines_eq_of_inLine inLine, here]
        exact key rfl
      unfold Parse.either
      rcases needs beside.valid none with cut | ⟨g, other, near⟩
      · rw [cut]
        exact .exhausted _
      · rw [other]
        exact .ok [] beside fun o => near f' (noted o).near

end Parse

end RuleMachine
