import Mathlib.Data.List.Forall2
import RuleMachine.Proofs.Grammar.Plain
import RuleMachine.Proofs.Source.Assembling
import RuleMachine.Template

/-!
# Places do not matter to reading

Two lists of nodes are alike if they differ in the places of their tokens only (`Node.Alike`). From
cursors at the same nodes of such lists every phrase is read alike (`Production.parse_alike`), so
that trees that are alike are the same program (`Tree.program_alike`). Tokens that differ in their
places only are assembled to such trees (`assemble_alike`).
-/

namespace RuleMachine

variable {α β : Type}

/-- Tokens that differ in their places only. -/
structure Token.Alike (t t' : Token α) : Prop where
  kind : t.kind = t'.kind
  text : t.text = t'.text

/-- Nodes whose tokens differ in their places only. -/
inductive Node.Alike : List (Node α) → List (Node α) → Prop
  | nil : Alike [] []
  | token {t t' ns ns'} : t.Alike t' → Alike ns ns' → Alike (.token t :: ns) (.token t' :: ns')
  | group {opener opener' closer closer' children children' ns ns'} : opener.Alike opener' →
      closer.Alike closer' → Alike children children' → Alike ns ns' →
      Alike (.group opener closer children :: ns) (.group opener' closer' children' :: ns')

namespace Token.Alike

variable {t t' : Token α}

theorem refl (t : Token α) : t.Alike t := ⟨rfl, rfl⟩

theorem symm (h : t.Alike t') : t'.Alike t := ⟨h.kind.symm, h.text.symm⟩

theorem isLine (h : t.Alike t') : t.isLine = t'.isLine := by
  rw [Token.isLine, Token.isLine, h.kind]

theorem isIgnored (h : t.Alike t') : t.isIgnored = t'.isIgnored := by
  rw [Token.isIgnored, Token.isIgnored, h.kind]

theorem isSymbol (h : t.Alike t') : t.isSymbol = t'.isSymbol := by
  rw [Token.isSymbol, Token.isSymbol, h.kind]

theorem role? (ds : Delimiters) (h : t.Alike t') : ds.role? t = ds.role? t' := by
  rw [Delimiters.role?, Delimiters.role?, h.isSymbol, h.text]

theorem value? {β : Type} {t t' : Token Value} (h : t.Alike t') (x : Terminal β) :
    x.value? t = x.value? t' := by
  obtain ⟨kind, text, place⟩ := t
  obtain ⟨_, _, place'⟩ := t'
  obtain ⟨rfl, rfl⟩ := h
  cases x <;> rfl

end Token.Alike

namespace Node.Alike

variable {ns ns' ms ms' : List (Node α)}

theorem append (h : Alike ns ns') (h' : Alike ms ms') : Alike (ns ++ ms) (ns' ++ ms') := by
  induction h with
  | nil => exact h'
  | token t _ ih => exact .token t ih
  | group opener closer children _ _ ih => exact .group opener closer children ih

theorem reverse (h : Alike ns ns') : Alike ns.reverse ns'.reverse := by
  induction h with
  | nil => exact .nil
  | token t _ ih =>
    rw [List.reverse_cons, List.reverse_cons]
    exact ih.append (.token t .nil)
  | group opener closer children _ _ ih =>
    rw [List.reverse_cons, List.reverse_cons]
    exact ih.append (.group opener closer children .nil)

theorem length (h : Alike ns ns') : ns.length = ns'.length := by
  induction h with
  | nil => rfl
  | token _ _ ih => simp [ih]
  | group _ _ _ _ _ ih => simp [ih]

theorem sizes {ns ns' : List (Node Value)} (h : Alike ns ns') : Node.sizes ns = Node.sizes ns' := by
  induction h with
  | nil => rfl
  | token t _ ih => simp only [Node.sizes, Node.size, t.text, ih]
  | group opener closer _ _ ihc ih =>
    simp only [Node.sizes, Node.size, opener.text, closer.text, ihc, ih]

theorem dropWhile (h : Alike ns ns') :
    Alike (ns.dropWhile (·.isLine)) (ns'.dropWhile (·.isLine)) := by
  induction h with
  | nil => exact .nil
  | @token t t' ns ns' same h ih =>
    simp only [List.dropWhile_cons, Node.isLine, same.isLine]
    split
    · exact ih
    · exact .token same h
  | group opener closer children h _ _ => exact .group opener closer children h

theorem tail (h : Alike ns ns') : Alike ns.tail ns'.tail := by
  cases h with
  | nil => exact .nil
  | token _ h => exact h
  | group _ _ _ h => exact h

end Node.Alike

/-- Cursors at the same place of alike nodes. -/
structure Cursor.Alike (c c' : Cursor) : Prop where
  nodes : Node.Alike c.nodes c'.nodes
  split : c.split = c'.split
  valid : c.Valid
  valid' : c'.Valid

namespace Cursor.Alike

variable {c c' d d' : Cursor}

theorem skipLines (h : c.Alike c') : c.skipLines.Alike c'.skipLines := by
  refine ⟨?_, ?_, h.valid.skipLines, h.valid'.skipLines⟩
  · unfold Cursor.skipLines
    rw [← h.split]
    split
    · exact h.nodes.dropWhile
    · exact h.nodes
  · unfold Cursor.skipLines
    split <;> split <;> exact h.split

theorem next (h : c.Alike c') : c.next.Alike c'.next :=
  ⟨h.nodes.tail, rfl, .next c, .next c'⟩

/-- The tokens in front, if there are any. -/
theorem token? (h : c.Alike c') : c.token? = none ∧ c'.token? = none ∨
    ∃ t t', c.token? = some t ∧ c'.token? = some t' ∧ t.Alike t' := by
  have nodes := h.nodes
  unfold Cursor.token?
  generalize c.nodes = ns at nodes
  generalize c'.nodes = ns' at nodes
  cases nodes with
  | nil | group => exact .inl ⟨rfl, rfl⟩
  | token same => exact .inr ⟨_, _, rfl, rfl, same⟩

theorem isEmpty (h : c.Alike c') : c.nodes.isEmpty = c'.nodes.isEmpty := by
  have nodes := h.nodes
  generalize c.nodes = ns at nodes
  generalize c'.nodes = ns' at nodes
  cases nodes <;> rfl

theorem atLineOrEnd (h : c.Alike c') : c.atLineOrEnd = c'.atLineOrEnd := by
  have nodes := h.nodes
  unfold Cursor.atLineOrEnd
  rw [h.split]
  generalize c.nodes = ns at nodes
  generalize c'.nodes = ns' at nodes
  cases nodes with
  | nil | group => rfl
  | token same => simp only [Node.isLine, same.isLine]

theorem steps (h : c.Alike c') : c.steps = c'.steps := by
  have nodes := h.nodes
  unfold Cursor.steps
  rw [h.split]
  generalize c.nodes = ns at nodes
  generalize c'.nodes = ns' at nodes
  have total : ns.foldr (fun n total => Node.steps n + total) 0 =
      ns'.foldr (fun n total => Node.steps n + total) 0 := by
    induction nodes with
    | nil => rfl
    | token same _ ih =>
      rw [List.foldr_cons, List.foldr_cons, ih, Node.steps, Node.steps, same.text]
    | group _ _ _ _ _ ih => rw [List.foldr_cons, List.foldr_cons, ih, Node.steps, Node.steps]
  rw [total]

theorem room (h : c.Alike c') : c.room = c'.room := by
  rw [Cursor.room, Cursor.room, h.nodes.sizes, h.split]

theorem sameAs (h : c.Alike c') (h' : d.Alike d') : d.sameAs c = d'.sameAs c' := by
  rw [Cursor.sameAs, Cursor.sameAs, h.nodes.length, h'.nodes.length, h.split, h'.split]

end Cursor.Alike

/-! ## Reading -/

/-- Replies without notes that differ in places only. -/
inductive Reply.Alike : Reply Unit α → Reply Unit α → Prop
  | ok (a : α) {d d'} : d.Alike d' → Alike (.ok a d ()) (.ok a d' ())
  | mismatch : Alike (.mismatch ()) (.mismatch ())
  | fatal (e e' : ParseError) : Alike (.fatal e) (.fatal e')
  | exhausted : Alike .exhausted .exhausted

namespace Parse

/-- A reader that does not look at places. -/
def Blind (p : Parse Unit α) : Prop := ∀ ⦃c c'⦄, c.Alike c' → (p c ()).Alike (p c' ())

variable {p : Parse Unit α} {c c' : Cursor}

theorem Blind.goes (a : α) {d : Cursor → Cursor}
    (moves : ∀ {c c'}, c.Alike c' → (d c).Alike (d c')) : Blind fun c _ => .ok a (d c) () :=
  fun _ _ alike => .ok a (moves alike)

theorem Blind.pure (a : α) : Blind fun c _ => .ok a c () := .goes a id

theorem andThen_alike {q q' : α → Parse Unit β} (hp : (p c ()).Alike (p c' ()))
    (hq : ∀ a d d', d.Alike d' → (q a d ()).Alike (q' a d' ())) :
    (andThen p q c ()).Alike (andThen p q' c' ()) := by
  unfold Parse.andThen
  generalize p c () = r at hp
  generalize p c' () = r' at hp
  cases hp with
  | ok a alike => exact hq a _ _ alike
  | mismatch => exact .mismatch
  | fatal e e' => exact .fatal e e'
  | exhausted => exact .exhausted

theorem either_alike {q q' : α → Parse Unit β} {r r' : Parse Unit β} (hp : (p c ()).Alike (p c' ()))
    (hq : ∀ a d d', d.Alike d' → (q a d ()).Alike (q' a d' ()))
    (hr : (r c ()).Alike (r' c' ())) : (either p q r c ()).Alike (either p q' r' c' ()) := by
  unfold Parse.either
  generalize p c () = reply at hp
  generalize p c' () = reply' at hp
  cases hp with
  | ok a alike => exact hq a _ _ alike
  | mismatch => exact hr
  | fatal e e' => exact .fatal e e'
  | exhausted => exact .exhausted

theorem Blind.andThen {q : α → Parse Unit β} (hp : Blind p) (hq : ∀ a, Blind (q a)) :
    Blind (andThen p q) :=
  fun _ _ alike => andThen_alike (hp alike) fun a _ _ alike => hq a alike

theorem Blind.either {q : α → Parse Unit β} {r : Parse Unit β} (hp : Blind p)
    (hq : ∀ a, Blind (q a)) (hr : Blind r) : Blind (either p q r) :=
  fun _ _ alike => either_alike (hp alike) (fun a _ _ alike => hq a alike) (hr alike)

theorem Blind.ite {q : Parse Unit α} {b : Cursor → Bool} (same : ∀ {c c'}, c.Alike c' → b c = b c')
    (hp : Blind p) (hq : Blind q) : Blind fun c f => if b c then p c f else q c f := by
  intro c c' alike
  dsimp only
  rw [same alike]
  split
  · exact hp alike
  · exact hq alike

theorem Blind.skipLines (hp : Blind p) : Blind fun c => p c.skipLines :=
  fun _ _ alike => hp alike.skipLines

theorem Blind.want (what : String) : Blind (want what : Parse Unit α) := fun _ _ _ => .mismatch

theorem Blind.many (hp : Blind p) (fuel : Nat) : Blind (many p fuel) := by
  induction fuel with
  | zero => exact .pure []
  | succ fuel ih =>
    intro c c' alike
    refine either_alike (hp alike) (fun a d d' moved => ?_) (.ok [] alike)
    -- Whether the element has passed anything is seen alike.
    rw [alike.sameAs moved]
    split
    · exact .ok [a] moved
    · exact andThen_alike (ih moved) fun as _ _ moved => .ok (a :: as) moved

theorem Blind.lineList (hp : Blind p) (fuel : Nat) : Blind (lineList p fuel) := by
  induction fuel with
  | zero => exact .pure []
  | succ fuel ih =>
    exact .ite (fun alike => alike.atLineOrEnd) (.pure [])
      (hp.either (fun a => ih.andThen fun as => .pure (a :: as)) (.pure []))

/-- Alike cursors have the same fuel. -/
theorem Blind.steps {loop : Nat → Parse Unit α} (h : ∀ fuel, Blind (loop fuel)) :
    Blind fun c => loop c.steps c := by
  intro c c' alike
  dsimp only
  rw [alike.steps]
  exact h _ alike

theorem terminal?_alike (alike : c.Alike c') (x : Terminal α) :
    terminal? c x = none ∧ terminal? c' x = none ∨
      ∃ a d d', terminal? c x = some (a, d) ∧ terminal? c' x = some (a, d') ∧ d.Alike d' := by
  by_cases whole : x.whole
  · rw [terminal?_eq alike.valid whole, terminal?_eq alike.valid' whole]
    rcases alike.token? with ⟨none, none'⟩ | ⟨t, t', front, front', same⟩
    · simp [none, none']
    · rw [front, front', Option.bind_some, Option.bind_some, same.value? x]
      cases x.value? t' with
      | none => exact .inl ⟨rfl, rfl⟩
      | some a => exact .inr ⟨a, _, _, rfl, rfl, alike.next⟩
  · cases x with
    | symbol text =>
      rcases alike.token? with ⟨none, none'⟩ | ⟨t, t', front, front', same⟩
      · exact .inl ⟨by simp [terminal?, none], by simp [terminal?, none']⟩
      · have rest : c.rest t = c'.rest t' := by
          rw [Cursor.rest, Cursor.rest, same.text, alike.split]
        rw [terminal?_symbol front, terminal?_symbol front', rest, same.isSymbol, same.text,
          alike.split]
        split
        · next fits =>
          refine .inr ⟨(), _, _, rfl, rfl, ?_⟩
          split
          · exact alike.next
          · next inside =>
            have symbol := (Bool.and_eq_true_iff.mp fits).1
            obtain ⟨rest, nodes⟩ := Cursor.nodes_of_token? front
            obtain ⟨rest', nodes'⟩ := Cursor.nodes_of_token? front'
            refine ⟨alike.nodes, rfl, .inr ⟨t, rest, nodes, ?_, ?_⟩,
              .inr ⟨t', rest', nodes', ?_, ?_⟩⟩
            · exact same.isSymbol.trans symbol
            · exact same.text ▸ Nat.lt_of_not_le inside
            · exact symbol
            · exact Nat.lt_of_not_le inside
        · exact .inl ⟨rfl, rfl⟩
    | _ => exact absurd rfl whole

theorem Blind.terminal (x : Terminal α) : Blind (terminal x) := by
  intro c c' alike
  unfold Parse.terminal
  rcases terminal?_alike alike.skipLines x with ⟨none, none'⟩ | ⟨a, d, d', some, some', moved⟩
  · rw [none, none']
    exact .mismatch
  · rw [some, some']
    exact .ok a moved

theorem Blind.commaRest (hp : Blind p) (fuel : Nat) : Blind (commaRest p fuel) := by
  induction fuel with
  | zero => exact .pure []
  | succ fuel ih =>
    refine (Blind.terminal (.symbol ",")).either (fun _ => ?_) (.pure [])
    refine .ite (fun alike => alike.skipLines.isEmpty) (Blind.pure []).skipLines ?_
    exact (hp.andThen fun a => ih.andThen fun as => .pure (a :: as)).skipLines

theorem Blind.commaList (hp : Blind p) : Blind (commaList p) := by
  refine .ite (fun alike => alike.skipLines.isEmpty) (Blind.pure []).skipLines
    (hp.andThen fun a => ?_).skipLines
  exact .steps fun fuel => (hp.commaRest fuel).andThen fun as => .pure (a :: as)

theorem Blind.finish (what : String) : Blind (finish what : Parse Unit Unit) := by
  refine .ite (fun alike => alike.skipLines.isEmpty) ?_ ?_
  · exact .goes () fun alike => alike.skipLines
  · exact (Blind.want what).skipLines

theorem Blind.group (b : Bracket) (hp : Blind p) : Blind (group b p) := by
  intro c c' alike
  have skipped := alike.skipLines
  have nodes := skipped.nodes
  simp only [Parse.group]
  generalize front : c.skipLines.nodes = ns at nodes
  generalize front' : c'.skipLines.nodes = ns' at nodes
  cases nodes with
  | nil => exact .mismatch
  | token => exact .mismatch
  | group opens closes inside _ =>
    dsimp only
    rw [opens.text]
    split
    · refine andThen_alike (hp ⟨inside, rfl, .inl rfl, .inl rfl⟩) fun a d d' moved => ?_
      refine andThen_alike (Blind.finish _ moved) fun _ _ _ _ => ?_
      exact .ok a skipped.next
    · exact .mismatch

theorem Blind.refuse (keyword feature : String) {p : Parse Unit Unit} {r : Parse Unit α}
    (hp : Blind p) (hr : Blind r) : Blind (refuse keyword feature p r) := by
  intro c c' alike
  have skipped := alike.skipLines
  refine either_alike (Blind.terminal _ skipped) (fun _ d d' moved => ?_) (hr skipped)
  exact andThen_alike (hp moved) fun _ _ _ _ => .fatal _ _

end Parse

theorem Phrase.parse_alike {ν : Type → Type} {call : {α : Type} → ν α → Parse Unit α}
    (hcall : ∀ {α} (n : ν α), Parse.Blind (call n)) {α : Type} (p : Phrase ν α) :
    Parse.Blind (p.parse call) := by
  induction p with
  | pure a => exact .pure a
  | terminal x => exact .terminal x
  | production n => exact hcall n
  | fail what =>
    cases what with
    | some what => exact .want what
    | none => exact fun _ _ _ => .mismatch
  | seq p q ihp ihq => exact ihp.andThen fun g => ihq.andThen fun a => .pure (g a)
  | choose p q r ihp ihq ihr => exact ihp.either (fun a => ihq.andThen fun g => .pure (g a)) ihr
  | many p ih => exact .steps ih.many
  | commaList p ih => exact ih.commaList
  | lineList p ih => exact .steps ih.lineList
  | group b p ih => exact ih.group b
  | refuse keyword feature p r ihp ihr => exact ihp.refuse keyword feature ihr
  | finish what => exact .finish what

theorem Production.parse_alike (fuel : Nat) {α : Type} (n : Production α) :
    Parse.Blind (n.parse fuel) := by
  induction fuel generalizing α with
  | zero => exact fun _ _ _ => .exhausted
  | succ fuel ih => exact n.phrase.parse_alike fun n => ih n

/-- A program is read without notes. -/
theorem Tree.plain_of_program {t : Tree Value} {ds : List Declaration} (h : t.program = .ok ds) :
    ∃ d, Production.program.read t.start () = .ok ds d () := by
  have follows : Reply.Follows (fun _ _ => True) (Production.program.read t.start ({} : Furthest))
      (Production.program.read t.start ()) :=
    Production.program.parse_follows (fun _ _ _ _ _ => trivial) (Nat.le_refl _) t.start_valid
      trivial
  rw [program_eq] at h
  generalize Production.program.read t.start ({} : Furthest) = reply at follows h
  generalize Production.program.read t.start () = reply' at follows
  cases follows with
  | ok a d _ =>
    cases h
    exact ⟨d, rfl⟩
  | mismatch | fatal | exhausted => cases h

/-- The declarations of a template are those of its tree. -/
theorem Template.parse_ok {t : Template} {ds : List Declaration} :
    t.parse = .ok ds ↔ ∃ tree, t.tree = .ok tree ∧ tree.program = .ok ds := by
  unfold Template.parse
  cases t.tree with
  | error e => simp [Except.mapError, bind, Except.bind]
  | ok tree =>
    simp only [Except.mapError, bind, Except.bind, Except.ok.injEq, exists_eq_left']
    generalize tree.program = program
    cases program <;> simp

/-- Trees that differ in places only are the same program, if they are one. -/
theorem Tree.program_alike {t t' : Tree Value} (alike : Node.Alike t.nodes t'.nodes)
    {ds : List Declaration} (h : t.program = .ok ds) : t'.program = .ok ds := by
  have start : t.start.Alike t'.start := ⟨alike, rfl, t.start_valid, t'.start_valid⟩
  obtain ⟨d, read⟩ := plain_of_program h
  have replies : (Production.program.read t.start ()).Alike
      (Production.program.read t'.start ()) := by
    unfold Production.read
    rw [start.room]
    exact Production.parse_alike _ _ start
  rw [read] at replies
  generalize read' : Production.program.read t'.start () = reply at replies
  cases replies with
  | ok _ _ => exact program_of_plain read'

/-! ## Assembling -/

/-- Open groups whose tokens differ in places only. -/
structure OpenGroup.Alike (g g' : OpenGroup α) : Prop where
  opener : g.opener.Alike g'.opener
  before : Node.Alike g.before g'.before

/-- States of assembling that differ in places only. -/
structure Assembly.Alike (a a' : Assembly α) : Prop where
  nodes : Node.Alike a.nodes a'.nodes
  opened : List.Forall₂ OpenGroup.Alike a.opened a'.opened
  afterLine : a.afterLine = a'.afterLine

namespace Assembly.Alike

variable {ds : Delimiters} {a a' b : Assembly α} {t t' : Token α}

theorem place (h : a.Alike a') (same : t.Alike t') (placed : a.place ds t = .ok b) :
    ∃ b', a'.place ds t' = .ok b' ∧ b.Alike b' := by
  unfold Assembly.place at placed ⊢
  rw [← same.role?]
  split at placed
  · cases placed
    exact ⟨_, rfl, .token same h.nodes, h.opened, h.afterLine⟩
  · cases placed
    exact ⟨_, rfl, .nil, .cons ⟨same, h.nodes⟩ h.opened, h.afterLine⟩
  · have groups := h.opened
    split at placed
    · cases placed
    · next g outer opened =>
      rw [opened] at groups
      generalize a'.opened = gs' at groups
      cases groups with
      | @cons _ g' _ outer' first rest =>
        dsimp only
        rw [← first.opener.text]
        split at placed
        · next fits =>
          cases placed
          rw [if_pos fits]
          exact ⟨_, rfl, .group first.opener same h.nodes.reverse first.before, rest, h.afterLine⟩
        · cases placed

theorem push (h : a.Alike a') (same : t.Alike t') (pushed : a.push ds t = .ok b) :
    ∃ b', a'.push ds t' = .ok b' ∧ b.Alike b' := by
  simp only [Assembly.push] at pushed ⊢
  rw [← same.isIgnored, ← same.isLine, ← h.afterLine]
  by_cases ignored : t.isIgnored
  · rw [if_pos ignored] at pushed ⊢
    cases pushed
    exact ⟨_, rfl, h.nodes, h.opened, rfl⟩
  rw [if_neg ignored] at pushed ⊢
  by_cases again : t.isLine && a.afterLine
  · rw [if_pos again] at pushed ⊢
    cases pushed
    exact ⟨_, rfl, h.nodes, h.opened, rfl⟩
  · rw [if_neg again] at pushed ⊢
    have kept : Assembly.Alike { a with stop := t.stop, afterLine := t.isLine }
        { a' with stop := t'.stop, afterLine := t.isLine } := ⟨h.nodes, h.opened, rfl⟩
    exact kept.place same pushed

theorem pushAll {ts ts' : List (Token α)} (h : a.Alike a')
    (same : List.Forall₂ Token.Alike ts ts') (pushed : ts.foldlM (Assembly.push ds) a = .ok b) :
    ∃ b', ts'.foldlM (Assembly.push ds) a' = .ok b' ∧ b.Alike b' := by
  induction same generalizing a a' with
  | nil =>
    cases pushed
    exact ⟨a', rfl, h⟩
  | @cons t t' _ _ first _ ih =>
    rw [List.foldlM_cons] at pushed ⊢
    cases one : a.push ds t with
    | error e =>
      rw [one] at pushed
      cases pushed
    | ok a₁ =>
      rw [one] at pushed
      obtain ⟨a₁', one', alike⟩ := h.push first one
      rw [one']
      exact ih alike pushed

theorem finish {tree : Tree α} (h : a.Alike a') (finished : a.finish = .ok tree) :
    ∃ tree', a'.finish = .ok tree' ∧ Node.Alike tree.nodes tree'.nodes := by
  have groups := h.opened
  unfold Assembly.finish at finished ⊢
  split at finished
  · next closed =>
    rw [closed] at groups
    generalize a'.opened = gs' at groups
    cases groups
    cases finished
    exact ⟨_, rfl, h.nodes.reverse⟩
  · cases finished

end Assembly.Alike

/-- Tokens that differ in places only are assembled alike. -/
theorem assemble_alike {ds : Delimiters} {ts ts' : List (Token α)} {tree : Tree α}
    (same : List.Forall₂ Token.Alike ts ts') (made : assemble ds ts = .ok tree) :
    ∃ tree', assemble ds ts' = .ok tree' ∧ Node.Alike tree.nodes tree'.nodes := by
  have empty : ({} : Assembly α).Alike {} := ⟨.nil, .nil, rfl⟩
  rw [assemble_eq] at made ⊢
  cases pushed : ts.foldlM (Assembly.push ds) {} with
  | error e =>
    rw [pushed] at made
    cases made
  | ok a =>
    rw [pushed] at made
    obtain ⟨a', pushed', alike⟩ := empty.pushAll same pushed
    have finished : a.finish = .ok tree := made
    obtain ⟨tree', finished', same⟩ := alike.finish finished
    refine ⟨tree', ?_, same⟩
    rw [pushed']
    exact finished'

end RuleMachine
