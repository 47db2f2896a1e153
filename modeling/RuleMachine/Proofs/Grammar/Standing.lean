import Mathlib.Data.String.Basic
import RuleMachine.Proofs.Grammar.Progress
import RuleMachine.Proofs.Grammar.Walk

/-!
# Where walkers stand

A walker goes over the items of a numbered group, and a cursor over the nodes that these show
(`Walker.Stands`). A cursor counts characters where a walker counts bytes. The two agree because
only symbols of one byte for each character are ever passed in part; so a walker that stands where
a cursor does stands safely (`Walker.Stands.safe`), whatever else the text in front of it holds.
-/

namespace RuleMachine

/-! ## Bytes of characters -/

namespace Text

/-- Every character takes one byte. -/
def Narrow (cs : List Char) : Prop := ∀ c ∈ cs, c.utf8Size = 1

instance (cs : List Char) : Decidable (Narrow cs) :=
  List.decidableBAll (fun c : Char => c.utf8Size = 1) cs

variable {cs pre : List Char} {n : Nat}

theorem length_le_utf8Len (cs : List Char) : cs.length ≤ String.utf8Len cs := by
  induction cs with
  | nil => exact Nat.zero_le _
  | cons c cs ih =>
    have pos := c.utf8Size_pos
    rw [String.utf8Len_cons, List.length_cons]
    omega

theorem Narrow.utf8Len_eq (narrow : Narrow cs) : String.utf8Len cs = cs.length := by
  induction cs with
  | nil => rfl
  | cons c cs ih =>
    have rest := ih fun d mem => narrow d (.tail _ mem)
    rw [String.utf8Len_cons, rest, narrow c (.head _), List.length_cons]

/-- Behind characters of one byte each bytes are counted like characters. -/
theorem Narrow.behind?_eq (narrow : Narrow (cs.take n)) (le : n ≤ cs.length) :
    behind? n cs = some (cs.drop n) := by
  induction cs generalizing n with
  | nil =>
    obtain rfl : n = 0 := Nat.le_zero.mp le
    rfl
  | cons c cs ih =>
    cases n with
    | zero => rfl
    | succ n =>
      have one : c.utf8Size = 1 := narrow c (.head _)
      have rest := ih (n := n) (fun d mem => narrow d (.tail _ mem)) (Nat.le_of_succ_le_succ le)
      simpa [behind?, one] using rest

-- Bytes and characters differ otherwise, and a character cannot be cut.
example : behind? 2 ['é', 'a'] = some ['a'] ∧ behind? 1 ['é', 'a'] = none := by decide

/-- Characters in front of what is left are passed as well. -/
theorem Narrow.take_add (narrow : Narrow (cs.take n)) (narrow' : Narrow pre)
    (fits : pre <+: cs.drop n) : Narrow (cs.take (n + pre.length)) := by
  intro c mem
  rw [List.take_add, ← List.prefix_iff_eq_take.mp fits, List.mem_append] at mem
  rcases mem with mem | mem
  · exact narrow c mem
  · exact narrow' c mem

theorem Narrow.utf8Len_le_iff (narrow : Narrow (cs.take n)) :
    String.utf8Len cs ≤ n ↔ cs.length ≤ n := by
  constructor
  · exact fun le => Nat.le_trans (length_le_utf8Len cs) le
  · intro le
    rw [List.take_of_length_le le] at narrow
    exact narrow.utf8Len_eq ▸ le

end Text

/-! ## Where a walker stands -/

namespace Walker

/-- A text can be cut behind a number of bytes. -/
def Boundary (text : String) (bytes : Nat) : Prop :=
  ∃ front back, text = front ++ back ∧ front.utf8ByteSize = bytes

/-- No more items are passed than there are; a symbol in front is passed up to the end of one of
its characters, and not all of it; and every group among the items is there and has both its
brackets. -/
structure Safe (a : Arena Value) (w : Walker) : Prop where
  passed_le : w.passed ≤ w.items.size
  split : w.split = 0 ∨ ∃ t, w.item? = some (.token t) ∧ t.isSymbol ∧
    w.split < t.text.utf8ByteSize ∧ Boundary t.text w.split
  groups : ∀ n, .group n ∈ w.items → ∃ opener closer items,
    a.groups[n]? = some ⟨some opener, some closer, items⟩

/-- The item in front shows the first of some nodes. -/
inductive Front (a : Arena Value) : Option (Item Value) → List (Node Value) → Prop
  | nil : Front a none []
  | token (t : Token Value) (rest : List (Node Value)) :
      Front a (some (.token t)) (.token t :: rest)
  | group {n : Nat} {opener closer : Token Value} {inner : Array (Item Value)}
      {children : List (Node Value)} (rest : List (Node Value)) :
      a.groups[n]? = some ⟨some opener, some closer, inner⟩ →
      Shows a.groups n inner.toList children →
      Front a (some (.group n)) (.group opener closer children :: rest)

theorem Front.isLine_eq {a : Arena Value} {i : Option (Item Value)} {ns : List (Node Value)}
    (h : Front a i ns) : i.any Item.isLine = ns.head?.any (·.isLine) := by
  cases h <;> rfl

end Walker

namespace Cursor

variable {c : Cursor}

theorem skipLines_of_front (h : ¬c.nodes.head?.any (·.isLine)) : c.skipLines = c := by
  obtain ⟨nodes, split, stop⟩ := c
  cases nodes with
  | nil => simp [skipLines]
  | cons n rest =>
    have other : ¬n.isLine := h
    simp [skipLines, other]

theorem skipLines_of_split (h : c.split ≠ 0) : c.skipLines = c := if_neg h

theorem skipLines_next (whole : c.split = 0) (h : c.nodes.head?.any (·.isLine)) :
    c.skipLines = c.next.skipLines := by
  obtain ⟨nodes, split, stop⟩ := c
  obtain rfl : split = 0 := whole
  cases nodes with
  | nil => cases h
  | cons n rest =>
    have line : n.isLine := h
    simp [skipLines, Cursor.next, line]

end Cursor

namespace Shows

variable {a : Arena Value} {p : Nat} {items : List (Item Value)} {ns : List (Node Value)}

theorem drop (h : Shows a.groups p items ns) (k : Nat) :
    Shows a.groups p (items.drop k) (ns.drop k) := by
  induction h generalizing k with
  | nil => simpa using Shows.nil
  | token h ih =>
    cases k with
    | zero => exact .token h
    | succ k => exact ih k
  | group lt stored inner h _ ih =>
    cases k with
    | zero => exact .group lt stored inner h
    | succ k => exact ih k

theorem length_eq (h : Shows a.groups p items ns) : ns.length = items.length := by
  induction h with
  | nil => rfl
  | token _ ih => exact congrArg Nat.succ ih
  | group _ _ _ _ _ ih => exact congrArg Nat.succ ih

theorem front (h : Shows a.groups p items ns) : Walker.Front a items[0]? ns := by
  cases h with
  | nil => exact .nil
  | token => exact .token _ _
  | group _ stored inner => exact .group _ stored inner

theorem steps_eq (h : Shows a.groups p items ns) :
    items.foldr (fun i n => Walker.laps.steps i + n) 1 =
      ns.foldr (fun n total => Cursor.Node.steps n + total) 0 + 1 := by
  induction h with
  | nil => rfl
  | token _ ih => rw [List.foldr_cons, ih]; rfl
  | group _ _ _ _ _ ih => rw [List.foldr_cons, ih]; rfl

/-- Groups that are shown are there, with both their brackets. -/
theorem stored (h : Shows a.groups p items ns) {n : Nat} (mem : .group n ∈ items) :
    ∃ opener closer inner, a.groups[n]? = some ⟨some opener, some closer, inner⟩ := by
  induction h with
  | nil => cases mem
  | token _ ih =>
    cases mem with
    | tail _ mem => exact ih mem
  | group _ stored _ _ _ ih =>
    cases mem with
    | head => exact ⟨_, _, _, stored⟩
    | tail _ mem => exact ih mem

end Shows

namespace Walker

/-- A walker stands where a cursor does. What is passed of a symbol takes one byte for each
character. -/
structure Stands (a : Arena Value) (w : Walker) (c : Cursor) : Prop where
  shows : ∃ p ns, Shows a.groups p w.items.toList ns ∧ c.nodes = ns.drop w.passed
  passed_le : w.passed ≤ w.items.size
  stop : c.stop = w.stop
  split : c.split = w.split
  inside : c.split = 0 ∨ ∃ t rest, c.nodes = .token t :: rest ∧ t.isSymbol ∧
    c.split < t.text.length ∧ Text.Narrow (t.text.toList.take c.split)

theorem backTo_eq {w v : Walker} (items : w.items = v.items) (stop : w.stop = v.stop) :
    w.backTo v = v := by
  rw [backTo, items, stop]

namespace Stands

variable {a : Arena Value} {w : Walker} {c : Cursor}

theorem valid (h : w.Stands a c) : c.Valid := by
  rcases h.inside with zero | ⟨t, rest, nodes, symbol, inside, -⟩
  · exact .inl zero
  · exact .inr ⟨t, rest, nodes, symbol, inside⟩

theorem front (h : w.Stands a c) : Front a w.item? c.nodes := by
  obtain ⟨p, ns, shows, nodes⟩ := h.shows
  have front := (shows.drop w.passed).front
  rw [← nodes, List.getElem?_drop, Nat.add_zero, Array.getElem?_toList] at front
  exact front

/-- The characters that are passed of a token in front are there, and take one byte each. -/
theorem narrow (h : w.Stands a c) {t : Token Value} (front : c.token? = some t) :
    c.split ≤ t.text.toList.length ∧ Text.Narrow (t.text.toList.take c.split) := by
  obtain ⟨ns, nodes⟩ := Cursor.nodes_of_token? front
  rcases h.inside with whole | ⟨t', ns', nodes', -, inside, narrow⟩
  · rw [whole, List.take_zero]
    exact ⟨Nat.zero_le _, nofun⟩
  · obtain ⟨same, -⟩ := List.cons.inj (nodes'.symm.trans nodes)
    obtain rfl := Node.token.inj same
    rw [← String.length_toList] at inside
    exact ⟨Nat.le_of_lt inside, narrow⟩

theorem length_eq (h : w.Stands a c) : c.nodes.length = w.items.size - w.passed := by
  obtain ⟨p, ns, shows, nodes⟩ := h.shows
  rw [nodes, List.length_drop, shows.length_eq, Array.length_toList]

theorem atLineOrEnd_eq (h : w.Stands a c) : w.atLineOrEnd = c.atLineOrEnd := by
  have front := h.front
  unfold Walker.atLineOrEnd Cursor.atLineOrEnd
  rw [h.split]
  generalize w.item? = i, c.nodes = ns at front
  cases front <;> rfl

/-- As much is passed as before just if two walkers with the same items stand at one place. -/
theorem sameAs_iff {w' : Walker} {d : Cursor} (h : w.Stands a c) (h' : w'.Stands a d)
    (items : w'.items = w.items) :
    (w'.passed = w.passed ∧ w'.split = w.split) ↔ d.sameAs c := by
  have length := h.length_eq
  have length' := h'.length_eq
  have le := h.passed_le
  have le' := h'.passed_le
  rw [items] at length' le'
  rw [Cursor.sameAs, Bool.and_eq_true, decide_eq_true_iff, decide_eq_true_iff, h.split, h'.split]
  omega

theorem steps_le (h : w.Stands a c) : c.steps ≤ w.laps := by
  obtain ⟨p, ns, shows, nodes⟩ := h.shows
  have steps := (shows.drop w.passed).steps_eq
  rw [← nodes] at steps
  rw [laps, steps, Cursor.steps]
  omega

/-- The front of the items of a group. -/
theorem first {p : Nat} {items : Array (Item Value)} {ns : List (Node Value)} (stop : Position)
    (shows : Shows a.groups p items.toList ns) : Stands a { items, stop } { nodes := ns, stop } :=
  ⟨⟨p, ns, shows, rfl⟩, Nat.zero_le _, rfl, rfl, .inl rfl⟩

theorem next (h : w.Stands a c) (more : c.nodes ≠ []) :
    Stands a { w with passed := w.passed + 1, split := 0 } c.next := by
  obtain ⟨p, ns, shows, nodes⟩ := h.shows
  have length := h.length_eq
  have pos := List.length_pos_iff.mpr more
  refine ⟨⟨p, ns, shows, ?_⟩, ?_, h.stop, rfl, .inl rfl⟩
  · simp [Cursor.next, nodes]
  · dsimp only
    omega

/-- Of a symbol in front some more characters are passed, or all that are left. -/
theorem symbol {text : String} (h : w.Stands a c) {t : Token Value} (front : c.token? = some t)
    (symbol : t.isSymbol) (narrow : Text.Narrow text.toList) (fits : text.toList <+: c.rest t) :
    (t.text.utf8ByteSize ≤ w.split + text.utf8ByteSize ↔
      t.text.length ≤ c.split + text.length) ∧
    (c.split + text.length < t.text.length →
      Stands a { w with split := w.split + text.utf8ByteSize }
        { c with split := c.split + text.length }) := by
  have passed := (h.narrow front).2.take_add narrow fits
  rw [String.length_toList] at passed
  have bytes : text.utf8ByteSize = text.length := by
    rw [← String.utf8Len_toList, narrow.utf8Len_eq, String.length_toList]
  rw [bytes, ← h.split, ← String.utf8Len_toList, passed.utf8Len_le_iff, String.length_toList]
  refine ⟨Iff.rfl, fun more => ?_⟩
  obtain ⟨rest, nodes⟩ := Cursor.nodes_of_token? front
  exact ⟨h.shows, h.passed_le, h.stop, rfl, .inr ⟨t, rest, nodes, symbol, more, passed⟩⟩

theorem safe (h : w.Stands a c) : w.Safe a := by
  obtain ⟨p, ns, shows, -⟩ := h.shows
  refine ⟨h.passed_le, ?_, fun n mem => shows.stored (Array.mem_toList_iff.mpr mem)⟩
  rcases h.inside with zero | ⟨t, rest, nodes, symbol, inside, narrow⟩
  · exact .inl (h.split ▸ zero)
  have front := h.front
  rw [nodes] at front
  have item : w.item? = some (.token t) := by
    generalize w.item? = i at front
    cases front
    rfl
  refine .inr ⟨t, item, symbol, ?_, String.ofList (t.text.toList.take c.split),
    String.ofList (t.text.toList.drop c.split), ?_, ?_⟩
  · have size := Text.length_le_utf8Len t.text.toList
    rw [String.utf8Len_toList, String.length_toList] at size
    rw [← h.split]
    exact Nat.lt_of_lt_of_le inside size
  · rw [← String.ofList_append, List.take_append_drop, String.ofList_toList]
  · rw [String.utf8ByteSize_ofList, narrow.utf8Len_eq, List.length_take, String.length_toList,
      ← h.split]
    exact Nat.min_eq_left (Nat.le_of_lt inside)

end Stands

end Walker

end RuleMachine
