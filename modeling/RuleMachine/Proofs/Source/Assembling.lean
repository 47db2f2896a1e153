import RuleMachine.Source.Arena

/-!
# Assembling without numbers

The same tree comes of assembling nodes at once, each group when its closer is met (`Assembly`).
No number is needed for it, so what assembling does is shown of this form; `assemble_eq` carries it
over. The numbered groups show nodes (`Shows`), and the groups that are still open are those of the
assembly, each with the nodes it has so far (`Stacked`).
-/

namespace RuleMachine

variable {α : Type}

/-- A group that is still open: its opener, and the nodes before the opener in reverse. -/
structure OpenGroup (α : Type) where
  opener : Token α
  before : List (Node α)

/-- The state of assembling: the nodes of the innermost open group in reverse, the open groups from
the innermost outwards, whether the last token kept was a line break, and the place reached. -/
structure Assembly (α : Type) where
  nodes : List (Node α) := []
  opened : List (OpenGroup α) := []
  afterLine : Bool := false
  stop : Position := .start

namespace Assembly

/-- Adds a kept token according to its role. -/
def place (ds : Delimiters) (a : Assembly α) (t : Token α) : Except SyntaxError (Assembly α) :=
  match ds.role? t with
  | none => .ok { a with nodes := .token t :: a.nodes }
  | some (.opens _) => .ok { a with nodes := [], opened := ⟨t, a.nodes⟩ :: a.opened }
  | some (.closes opener) =>
    match a.opened with
    | [] => .error (.unmatchedClose t.text t.position)
    | g :: outer =>
      if g.opener.text = opener then
        .ok { a with nodes := .group g.opener t a.nodes.reverse :: g.before, opened := outer }
      else
        let expected := match ds.lookup g.opener.text with
          | some (.opens close) => close
          | _ => g.opener.text
        .error (.mismatchedClose expected t.text t.position)

/-- Takes the next token in. -/
def push (ds : Delimiters) (a : Assembly α) (t : Token α) : Except SyntaxError (Assembly α) :=
  let a := { a with stop := t.stop }
  if t.isIgnored then .ok a
  else if t.isLine && a.afterLine then .ok a
  else place ds { a with afterLine := t.isLine } t

/-- The tree, once every group is closed. -/
def finish (a : Assembly α) : Except SyntaxError (Tree α) :=
  match a.opened with
  | [] => .ok ⟨a.nodes.reverse, a.stop⟩
  | g :: _ => .error (.unclosed g.opener.text g.opener.position)

end Assembly

/-- What succeeds for a list succeeds for its first item, and from there for the others. -/
theorem exists_of_foldlM_cons {ε β γ : Type} {f : β → γ → Except ε β} {b c : β} {x : γ}
    {xs : List γ} (h : (x :: xs).foldlM f b = .ok c) :
    ∃ b', f b x = .ok b' ∧ xs.foldlM f b' = .ok c := by
  rw [List.foldlM_cons] at h
  cases first : f b x with
  | error e =>
    rw [first] at h
    cases h
  | ok b' =>
    rw [first] at h
    exact ⟨b', rfl, h⟩

/-! ## Numbered groups and nodes -/

/-- Items of the group `p` stand for nodes. A group in it has a greater number and is closed. -/
inductive Shows (groups : Array (Group α)) : Nat → List (Item α) → List (Node α) → Prop
  | nil {p : Nat} : Shows groups p [] []
  | token {p : Nat} {t : Token α} {items : List (Item α)} {ns : List (Node α)} :
      Shows groups p items ns → Shows groups p (.token t :: items) (.token t :: ns)
  | group {p n : Nat} {opener closer : Token α} {inner : Array (Item α)} {items : List (Item α)}
      {children ns : List (Node α)} : p < n →
      groups[n]? = some ⟨some opener, some closer, inner⟩ → Shows groups n inner.toList children →
      Shows groups p items ns →
      Shows groups p (.group n :: items) (.group opener closer children :: ns)

/-- The open groups, from the innermost outwards, have the nodes of an assembly. -/
inductive Stacked (groups : Array (Group α)) :
    List Nat → List (Node α) → List (OpenGroup α) → Prop
  | outermost {items : Array (Item α)} {ns : List (Node α)} :
      groups[0]? = some ⟨none, none, items⟩ → Shows groups 0 items.toList ns.reverse →
      Stacked groups [] ns []
  | inner {n : Nat} {outer : List Nat} {g : OpenGroup α} {gs : List (OpenGroup α)}
      {items : Array (Item α)} {ns : List (Node α)} : Draft.innermost outer < n →
      groups[n]? = some ⟨some g.opener, none, items⟩ → Shows groups n items.toList ns.reverse →
      Stacked groups outer g.before gs → Stacked groups (n :: outer) ns (g :: gs)

/-- Closed groups are as they were. -/
def KeepsClosed (groups groups' : Array (Group α)) : Prop :=
  ∀ ⦃n : Nat⦄ ⦃g : Group α⦄, groups[n]? = some g → g.closer.isSome → groups'[n]? = some g

section

variable {groups groups' : Array (Group α)} {p n : Nat} {items items' : List (Item α)}
  {ns ms : List (Node α)} {opened : List Nat} {gs : List (OpenGroup α)} {t : Token α}

theorem Shows.mono (h : Shows groups p items ns) (keeps : KeepsClosed groups groups') :
    Shows groups' p items ns := by
  induction h with
  | nil => exact .nil
  | token _ ih => exact .token ih
  | group lt stored _ _ inner rest => exact .group lt (keeps stored rfl) inner rest

theorem Shows.append (h : Shows groups p items ns) (h' : Shows groups p items' ms) :
    Shows groups p (items ++ items') (ns ++ ms) := by
  induction h with
  | nil => exact h'
  | token _ ih => exact .token (ih h')
  | group lt stored inner _ _ rest => exact .group lt stored inner (rest h')

/-- Depth for each group with a greater number is enough to read the nodes off. -/
theorem Shows.filterMap_eq (h : Shows groups p items ns) {depth : Nat}
    (enough : groups.size ≤ p + depth + 1) :
    items.filterMap (Arena.node? groups (Arena.nodes groups depth)) = ns := by
  induction h generalizing depth with
  | nil => rfl
  | token _ ih => rw [List.filterMap_cons, Arena.node?, ih enough]
  | @group p n opener closer inner items children ns lt stored _ _ ih rest =>
    obtain ⟨inside, -⟩ := Array.getElem?_eq_some_iff.mp stored
    cases depth with
    | zero => omega
    | succ depth =>
      have read : Arena.nodes groups (depth + 1) inner = children := ih (by omega)
      rw [List.filterMap_cons, Arena.node?, stored]
      simp only
      rw [read, rest enough]

/-- Open groups that are as they were keep their nodes. -/
theorem Stacked.mono (h : Stacked groups opened ns gs) (keeps : KeepsClosed groups groups')
    (below : ∀ n ≤ Draft.innermost opened, groups'[n]? = groups[n]?) :
    Stacked groups' opened ns gs := by
  induction h with
  | outermost stored shown =>
    exact .outermost ((below 0 (Nat.le_refl 0)).trans stored) (shown.mono keeps)
  | inner lt stored shown _ ih =>
    refine .inner lt ((below _ (Nat.le_refl _)).trans stored) (shown.mono keeps) (ih ?_)
    exact fun n le => below n (Nat.le_trans le (Nat.le_of_lt lt))

theorem KeepsClosed.modify {g : Group α} (stored : groups[n]? = some g) (still : g.closer = none)
    (f : Group α → Group α) : KeepsClosed groups (groups.modify n f) := by
  intro m g' stored' closed
  have other : n ≠ m := by
    rintro rfl
    cases stored.symm.trans stored'
    rw [still] at closed
    cases closed
  rw [Array.getElem?_modify, if_neg other, stored']

theorem KeepsClosed.push (groups : Array (Group α)) (g : Group α) :
    KeepsClosed groups (groups.push g) := by
  intro m g' stored _
  obtain ⟨inside, -⟩ := Array.getElem?_eq_some_iff.mp stored
  rw [Array.getElem?_push, if_neg (Nat.ne_of_lt inside), stored]

theorem getElem?_modify_self {g : Group α} (stored : groups[n]? = some g)
    (f : Group α → Group α) : (groups.modify n f)[n]? = some (f g) := by
  rw [Array.getElem?_modify, if_pos rfl, stored, Option.map_some]

theorem Stacked.innermost_lt (h : Stacked groups opened ns gs) :
    Draft.innermost opened < groups.size := by
  cases h with
  | outermost stored => exact (Array.getElem?_eq_some_iff.mp stored).choose
  | inner _ stored => exact (Array.getElem?_eq_some_iff.mp stored).choose

/-- An item that is added to the innermost group adds its node. -/
theorem Stacked.add (h : Stacked groups opened ns gs) {item : Item α} {node : Node α}
    (shows : Shows groups (Draft.innermost opened) [item] [node]) :
    Stacked (groups.modify (Draft.innermost opened) (.add item)) opened (node :: ns) gs := by
  cases h with
  | outermost stored shown =>
    have keeps := KeepsClosed.modify stored rfl (.add item)
    refine .outermost (getElem?_modify_self stored _) ?_
    rw [Array.toList_push, List.reverse_cons]
    exact (shown.mono keeps).append (shows.mono keeps)
  | inner lt stored shown rest =>
    have keeps := KeepsClosed.modify stored rfl (.add item)
    refine .inner lt (getElem?_modify_self stored _) ?_ (rest.mono keeps fun m le => ?_)
    · rw [Array.toList_push, List.reverse_cons]
      exact (shown.mono keeps).append (shows.mono keeps)
    · rw [Array.getElem?_modify, if_neg]
      exact Nat.ne_of_gt (Nat.lt_of_le_of_lt le lt)

/-- A group that is opened has no nodes yet. -/
theorem Stacked.opens (h : Stacked groups opened ns gs) (t : Token α) :
    Stacked (groups.push { opener := some t }) (groups.size :: opened) [] (⟨t, ns⟩ :: gs) := by
  have inside := h.innermost_lt
  have stored : (groups.push { opener := some t })[groups.size]? = some ⟨some t, none, #[]⟩ := by
    rw [Array.getElem?_push, if_pos rfl]
  refine .inner inside stored .nil (h.mono (.push ..) fun m le => ?_)
  rw [Array.getElem?_push, if_neg (Nat.ne_of_lt (Nat.lt_of_le_of_lt le inside))]

/-- A group that is closed becomes a node of the group around it. -/
theorem Stacked.closes {g : OpenGroup α} (h : Stacked groups (n :: opened) ns (g :: gs))
    (t : Token α) :
    Stacked ((groups.modify n (.close t)).modify (Draft.innermost opened) (.add (.group n))) opened
      (.group g.opener t ns.reverse :: g.before) gs := by
  cases h with
  | inner lt stored shown rest =>
    have keeps := KeepsClosed.modify stored rfl (.close t)
    refine (rest.mono keeps fun m le => ?_).add ?_
    · rw [Array.getElem?_modify, if_neg]
      exact Nat.ne_of_gt (Nat.lt_of_le_of_lt le lt)
    · exact .group lt (getElem?_modify_self stored _) (shown.mono keeps) .nil

end

/-! ## The same tree -/

/-- The numbered groups are those of the assembly. -/
structure Draft.Agrees (d : Draft α) (a : Assembly α) : Prop where
  stacked : Stacked d.groups d.opened a.nodes a.opened
  afterLine : d.afterLine = a.afterLine
  stop : d.stop = a.stop

/-- Both fail with the same error, or both succeed, with results that `V` relates. -/
inductive Both {β γ : Type} (V : β → γ → Prop) : Except SyntaxError β → Except SyntaxError γ → Prop
  | ok {b : β} {c : γ} : V b c → Both V (.ok b) (.ok c)
  | error (e : SyntaxError) : Both V (.error e) (.error e)

theorem Draft.group_eq {groups : Array (Group α)} {opened : List Nat} {line : Bool}
    {place : Position} {n : Nat} {g : Group α} (stored : groups[n]? = some g) :
    Draft.group ⟨groups, opened, line, place⟩ n = g := by
  rw [group, stored, Option.getD_some]

namespace Draft.Agrees

variable {ds : Delimiters} {d : Draft α} {a : Assembly α}

theorem initial : ({} : Draft α).Agrees {} := by
  have stored : (#[{}] : Array (Group α))[0]? = some ⟨none, none, #[]⟩ := rfl
  exact ⟨.outermost stored .nil, rfl, rfl⟩

theorem place (h : d.Agrees a) (t : Token α) : Both Agrees (d.place ds t) (a.place ds t) := by
  obtain ⟨stacked, afterLine, stop⟩ := h
  obtain ⟨groups, opened, line, place⟩ := d
  obtain ⟨ns, gs, line', place'⟩ := a
  dsimp only at stacked afterLine stop
  unfold Draft.place Assembly.place
  cases ds.role? t with
  | none => exact .ok ⟨stacked.add (.token .nil), afterLine, stop⟩
  | some role =>
    cases role with
    | opens close => exact .ok ⟨stacked.opens t, afterLine, stop⟩
    | closes opener =>
      cases stacked with
      | outermost => exact .error _
      | @inner n outer g gs items _ lt stored shown rest =>
        simp only [Draft.group_eq stored, Group.openerText, Option.elim_some]
        by_cases named : g.opener.text = opener
        · rw [if_pos named, if_pos named]
          exact .ok ⟨(Stacked.inner lt stored shown rest).closes t, afterLine, stop⟩
        · rw [if_neg named, if_neg named]
          exact .error _

theorem push (h : d.Agrees a) (t : Token α) : Both Agrees (d.push ds t) (a.push ds t) := by
  obtain ⟨stacked, afterLine, -⟩ := h
  unfold Draft.push Assembly.push
  dsimp only
  rw [afterLine]
  split
  · exact .ok ⟨stacked, rfl, rfl⟩
  split
  · exact .ok ⟨stacked, rfl, rfl⟩
  · have kept : Agrees { d with stop := t.stop, afterLine := t.isLine }
        { a with stop := t.stop, afterLine := t.isLine } := ⟨stacked, rfl, rfl⟩
    exact kept.place t

theorem pushAll (h : d.Agrees a) (ts : List (Token α)) :
    Both Agrees (ts.foldlM (Draft.push ds) d) (ts.foldlM (Assembly.push ds) a) := by
  induction ts generalizing d a with
  | nil => exact .ok h
  | cons t ts ih =>
    have first : Both Agrees (d.push ds t) (a.push ds t) := h.push t
    rw [List.foldlM_cons, List.foldlM_cons]
    generalize d.push ds t = r, a.push ds t = r' at first
    cases first with
    | ok agree => exact ih agree
    | error e => exact .error e

theorem finish (h : d.Agrees a) :
    Both (fun arena tree => arena.tree = tree) d.finish a.finish := by
  obtain ⟨stacked, -, stop⟩ := h
  obtain ⟨groups, opened, line, place⟩ := d
  obtain ⟨ns, gs, line', place'⟩ := a
  obtain rfl : place = place' := stop
  dsimp only at stacked
  have inside : 0 < groups.size := Nat.zero_lt_of_lt stacked.innermost_lt
  cases stacked with
  | @outermost items _ stored shown =>
    refine .ok ?_
    have read : Arena.nodes groups groups.size items = ns.reverse := by
      cases size : groups.size with
      | zero => omega
      | succ depth => exact shown.filterMap_eq (by omega)
    rw [Arena.tree]
    simp only [stored, Option.elim_some, read]
  | inner _ stored =>
    simp only [Draft.finish, Assembly.finish, Draft.group_eq stored]
    exact .error _

end Draft.Agrees

/-- Assembling numbered groups gives the tree that assembling nodes gives. -/
theorem assemble_eq (ds : Delimiters) (ts : List (Token α)) :
    assemble ds ts = ts.foldlM (Assembly.push ds) {} >>= Assembly.finish := by
  have pushed : Both Draft.Agrees (ts.foldlM (Draft.push ds) {})
      (ts.foldlM (Assembly.push ds) {}) := Draft.Agrees.initial.pushAll ts
  unfold assemble Arena.ofTokens
  generalize ts.foldlM (Draft.push ds) {} = r, ts.foldlM (Assembly.push ds) {} = r' at pushed
  cases pushed with
  | error e => rfl
  | @ok d a agree =>
    have finished := agree.finish
    change d.finish.map Arena.tree = a.finish
    generalize d.finish = r, a.finish = r' at finished
    cases finished with
    | ok same => exact congrArg Except.ok same
    | error e => rfl

end RuleMachine
