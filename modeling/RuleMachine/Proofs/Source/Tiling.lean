import RuleMachine.Proofs.Grammar.Fuel
import RuleMachine.Proofs.Grammar.Order
import RuleMachine.Proofs.Source.Assembling
import RuleMachine.Template

/-!
# Trees are in source order

The tokens of a source follow each other without a gap (`tokenize_tiles`). Assembling keeps their
order, so that the tree of a template is in source order (`Template.tree_inOrder`): what is shown of
trees in order holds of every tree that is parsed.
-/

namespace RuleMachine

namespace Position

/-- Every character takes a byte or more. -/
theorem offset_advance (p : Position) (text : List Char) :
    p.offset + text.length ≤ (p.advance text).offset := by
  induction text generalizing p with
  | nil => exact Nat.le_refl _
  | cons c text ih =>
    have step : p.offset + 1 ≤ (p.step c).offset := by
      unfold step
      split <;> exact Nat.add_le_add_left c.utf8Size_pos _
    have rest := ih (p.step c)
    rw [advance_cons, List.length_cons]
    omega

theorem le_advance (p : Position) (text : List Char) : p.Le (p.advance text) := by
  cases text with
  | nil => exact .refl p
  | cons c text =>
    have bytes := p.offset_advance (c :: text)
    rw [List.length_cons] at bytes
    exact .inr (by omega)

end Position

/-! ## Tokens -/

section

variable {α : Type}

/-- The tokens follow each other without a gap, from one place to another. -/
def Tiles : Position → List (Token α) → Position → Prop
  | p, [], q => p = q
  | p, t :: ts, q => t.position = p ∧ Tiles t.stop ts q

theorem Tiles.append {p q r : Position} {ts us : List (Token α)} (h : Tiles p ts q)
    (h' : Tiles q us r) : Tiles p (ts ++ us) r := by
  induction ts generalizing p with
  | nil => exact h ▸ h'
  | cons t ts ih => exact ⟨h.1, ih h.2⟩

namespace Lexer

theorem scanWith_tiles (fuel : Nat) (l : Lexer) (text : List Char) :
    Tiles l.position (scanWith fuel l text : Scanned α).tokens
      (scanWith fuel l text : Scanned α).lexer.position := by
  fun_induction scanWith with
  | case1 | case2 | case3 => rfl
  | case4 fuel l c rest rule n _ text scanned ih =>
    refine ⟨rfl, ?_⟩
    change Tiles (l.position.advance (String.ofList text).toList) _ _
    rw [String.toList_ofList]
    exact ih

theorem inject_tiles (l : Lexer) (value : Option α) :
    Tiles l.position (value.bind l.inject).toList l.position := by
  cases value with
  | none => rfl
  | some value =>
    unfold inject
    rw [Option.bind_some]
    split
    · exact ⟨rfl, rfl⟩
    · rfl

theorem scanSegments_tiles {l : Lexer} {segments : List String} {values : List α}
    {tokens : List (Token α)} (h : l.scanSegments segments values = .ok tokens) :
    ∃ q, Tiles l.position tokens q := by
  induction segments generalizing l values tokens with
  | nil =>
    unfold scanSegments at h
    split at h
    · cases h
    · cases h
      exact ⟨_, rfl⟩
  | cons segment segments ih =>
    have first := scanWith_tiles segment.toList.length l segment.toList (α := α)
    simp only [scanSegments, scan] at h
    generalize (scanWith segment.toList.length l segment.toList : Scanned α) = scanned at h first
    obtain ⟨ts, l', failure⟩ := scanned
    cases failure with
    | some e => cases h
    | none =>
      simp only at h
      generalize more : l'.scanSegments segments _ = rest at h
      cases rest with
      | error e => cases h
      | ok us =>
        cases h
        obtain ⟨q, rest⟩ := ih more
        refine ⟨q, (first.append ?_).append rest⟩
        split
        · rfl
        · exact l'.inject_tiles values.head?

end Lexer

theorem tokenize_tiles {segments : List String} {values : List α} {tokens : List (Token α)}
    (h : tokenize segments values = .ok tokens) : ∃ q, Tiles .start tokens q :=
  Lexer.scanSegments_tiles h

end

/-! ## Nodes -/

namespace Node

variable {p q : Position} {n : Node Value} {ns : List (Node Value)}

theorem front_append (ns : List (Node Value)) (n : Node Value) (q : Position) :
    front q (ns ++ [n]) = front n.position ns := by
  cases ns <;> rfl

theorem allInOrder_append (h : allInOrder n.position ns) (last : n.inOrder q) :
    allInOrder q (ns ++ [n]) := by
  induction ns with
  | nil =>
    rw [List.nil_append, allInOrder, allInOrder]
    exact ⟨last, trivial⟩
  | cons m ns ih =>
    rw [allInOrder] at h
    rw [List.cons_append, allInOrder, front_append]
    exact ⟨h.1, ih h.2⟩

theorem front_mono (ns : List (Node Value)) (le : p.Le q) : (front p ns).Le (front q ns) := by
  cases ns with
  | nil => exact le
  | cons n ns => exact .refl _

theorem allInOrder_mono (h : allInOrder p ns) (le : p.Le q) : allInOrder q ns := by
  induction ns with
  | nil =>
    rw [allInOrder]
    trivial
  | cons n ns ih =>
    rw [allInOrder] at h ⊢
    exact ⟨h.1.mono (front_mono ns le), ih h.2⟩

theorem inOrder_token (t : Token Value) : (Node.token t).inOrder t.stop := by
  rw [inOrder]
  refine ⟨t.position.le_advance _, fun _ => ?_⟩
  rw [← String.length_toList]
  exact t.position.offset_advance _

end Node

/-! ## Assembling -/

/-- The nodes that end at a place, taken in reverse, and the groups that are open around them are
in order. -/
def Placed (stop : Position) (nodes : List (Node Value)) : List (OpenGroup Value) → Prop
  | [] => Node.allInOrder stop nodes.reverse
  | g :: outer => Node.allInOrder stop nodes.reverse ∧
      g.opener.position.Le (Node.front stop nodes.reverse) ∧
      Placed g.opener.position g.before outer

namespace Placed

variable {p q : Position} {n : Node Value} {ns : List (Node Value)}
  {outer : List (OpenGroup Value)} {g : OpenGroup Value}

theorem allInOrder (h : Placed p ns outer) : Node.allInOrder p ns.reverse := by
  cases outer with
  | nil => exact h
  | cons g outer => exact h.1

theorem mono (h : Placed p ns outer) (le : p.Le q) : Placed q ns outer := by
  cases outer with
  | nil => exact Node.allInOrder_mono h le
  | cons g outer =>
    exact ⟨Node.allInOrder_mono h.1 le, h.2.1.trans (Node.front_mono _ le), h.2.2⟩

theorem add (h : Placed n.position ns outer) (last : n.inOrder q) : Placed q (n :: ns) outer := by
  have all : Node.allInOrder q (n :: ns).reverse := by
    rw [List.reverse_cons]
    exact Node.allInOrder_append h.allInOrder last
  cases outer with
  | nil => exact all
  | cons g outer =>
    refine ⟨all, ?_, h.2.2⟩
    rw [List.reverse_cons, Node.front_append]
    exact h.2.1

end Placed

namespace Assembly

variable {ds : Delimiters} {a b : Assembly Value} {t : Token Value}

/-- Everything taken in so far is in order. -/
def InOrder (a : Assembly Value) : Prop := Placed a.stop a.nodes a.opened

theorem place_inOrder (h : Placed t.position a.nodes a.opened)
    (stop : a.stop = t.stop) (placed : a.place ds t = .ok b) : b.InOrder ∧ b.stop = t.stop := by
  have le : t.position.Le t.stop := t.position.le_advance _
  unfold Assembly.place at placed
  split at placed
  · cases placed
    exact ⟨stop ▸ Placed.add (n := .token t) h (Node.inOrder_token t), stop⟩
  · cases placed
    refine ⟨?_, stop⟩
    exact ⟨trivial, stop ▸ le, h⟩
  · split at placed
    · cases placed
    · next g outer opened =>
      split at placed
      · cases placed
        rw [opened] at h
        have whole : (Node.group g.opener t a.nodes.reverse).inOrder t.stop := by
          rw [Node.inOrder]
          exact ⟨h.2.1, h.1, le⟩
        exact ⟨stop ▸ Placed.add (n := .group g.opener t a.nodes.reverse) h.2.2 whole, stop⟩
      · cases placed

theorem InOrder.push (h : a.InOrder) (here : t.position = a.stop) (pushed : a.push ds t = .ok b) :
    b.InOrder ∧ b.stop = t.stop := by
  have placed : Placed t.position a.nodes a.opened := here ▸ h
  have passed : Placed t.stop a.nodes a.opened := placed.mono (t.position.le_advance _)
  simp only [Assembly.push] at pushed
  split at pushed
  · cases pushed
    exact ⟨passed, rfl⟩
  split at pushed
  · cases pushed
    exact ⟨passed, rfl⟩
  · refine place_inOrder ?_ rfl pushed
    exact placed

theorem InOrder.pushAll {q : Position} {tokens : List (Token Value)} (h : a.InOrder)
    (tiles : Tiles a.stop tokens q) (pushed : tokens.foldlM (Assembly.push ds) a = .ok b) :
    b.InOrder := by
  induction tokens generalizing a with
  | nil =>
    cases pushed
    exact h
  | cons t tokens ih =>
    obtain ⟨a', first, rest⟩ := exists_of_foldlM_cons pushed
    obtain ⟨order, stop⟩ := h.push tiles.1 first
    exact ih order (stop ▸ tiles.2) rest

theorem InOrder.finish {tree : Tree Value} (h : a.InOrder) (finished : a.finish = .ok tree) :
    tree.start.InOrder := by
  unfold Assembly.finish at finished
  split at finished
  · cases finished
    exact h.allInOrder
  · cases finished

end Assembly

/-- The tree of a template is in source order. -/
theorem Template.tree_inOrder {t : Template} {tree : Tree Value} (made : t.tree = .ok tree) :
    tree.start.InOrder := by
  unfold Template.tree at made
  generalize tokenized : tokenize t.segments t.values = r at made
  obtain _ | tokens := r
  · cases made
  change assemble brackets tokens = _ at made
  rw [assemble_eq] at made
  generalize pushed : tokens.foldlM (Assembly.push brackets) {} = r at made
  obtain _ | a := r
  · cases made
  obtain ⟨q, tiles⟩ := tokenize_tiles tokenized
  have empty : ({} : Assembly Value).InOrder := trivial
  exact (empty.pushAll tiles pushed).finish made

end RuleMachine
