import Mathlib.Data.List.DropRight
import RuleMachine.Proofs.Grammar.Progress

/-!
# Source order

In a tree that comes from a source no token starts before the end of what is in front of it
(`Cursor.InOrder`). Reading then goes on to later places only, and the furthest place at which
something was asked for in vain can be compared with the place of a cursor (`Furthest.Near`).
-/

namespace RuleMachine

namespace Position

/-- The same place, or one with fewer bytes before it. -/
def Le (p q : Position) : Prop := p = q ∨ p.offset < q.offset

instance (p q : Position) : Decidable (p.Le q) := inferInstanceAs (Decidable (_ ∨ _))

variable {p q r : Position}

theorem Le.refl (p : Position) : p.Le p := .inl rfl

theorem Le.offset_le (h : p.Le q) : p.offset ≤ q.offset := by
  rcases h with rfl | less
  · exact Nat.le_refl _
  · exact Nat.le_of_lt less

theorem Le.trans (h : p.Le q) (h' : q.Le r) : p.Le r := by
  rcases h with rfl | less
  · exact h'
  · exact .inr (Nat.lt_of_lt_of_le less h'.offset_le)

end Position

/-- The place where the first of some nodes stands, or their end. -/
def Node.front (stop : Position) : List (Node Value) → Position
  | [] => stop
  | n :: _ => n.position

mutual

/-- Whether a node, with all that is in it, is in order and ends before a place. -/
def Node.inOrder (next : Position) : Node Value → Prop
  | .token t =>
    t.position.Le next ∧ (t.isSymbol → t.position.offset + t.text.length ≤ next.offset)
  | .group opener closer children =>
    opener.position.Le (front closer.position children) ∧
      Node.allInOrder closer.position children ∧ closer.position.Le next

/-- Whether nodes that end at `stop` are in order. -/
def Node.allInOrder (stop : Position) : List (Node Value) → Prop
  | [] => True
  | n :: ns => Node.inOrder (front stop ns) n ∧ Node.allInOrder stop ns

end

mutual

def Node.decidableInOrder (next : Position) : (n : Node Value) → Decidable (n.inOrder next)
  | .token t => decidable_of_iff
      (t.position.Le next ∧ (t.isSymbol → t.position.offset + t.text.length ≤ next.offset))
      (by rw [inOrder])
  | .group opener closer children =>
    have := Node.decidableAllInOrder closer.position children
    decidable_of_iff (opener.position.Le (front closer.position children) ∧
      Node.allInOrder closer.position children ∧ closer.position.Le next) (by rw [inOrder])

def Node.decidableAllInOrder (stop : Position) :
    (ns : List (Node Value)) → Decidable (Node.allInOrder stop ns)
  | [] => isTrue (by rw [allInOrder]; trivial)
  | n :: ns =>
    have := Node.decidableInOrder (front stop ns) n
    have := Node.decidableAllInOrder stop ns
    decidable_of_iff (Node.inOrder (front stop ns) n ∧ Node.allInOrder stop ns) (by rw [allInOrder])

end

instance (stop : Position) (ns : List (Node Value)) : Decidable (Node.allInOrder stop ns) :=
  Node.decidableAllInOrder stop ns

section

variable {next stop : Position} {n : Node Value} {ns : List (Node Value)}

mutual

theorem Node.position_le {next : Position} : {n : Node Value} → n.inOrder next →
    n.position.Le next
  | .token t, h => by
    rw [inOrder] at h
    exact h.1
  | .group opener closer children, h => by
    rw [inOrder] at h
    exact (h.1.trans (Node.front_le h.2.1)).trans h.2.2

theorem Node.front_le {stop : Position} : {ns : List (Node Value)} → Node.allInOrder stop ns →
    (front stop ns).Le stop
  | [], _ => .refl stop
  | n :: ns, h => by
    rw [allInOrder] at h
    exact (Node.position_le h.1).trans (Node.front_le h.2)

end

theorem Node.inOrder.mono {p q : Position} (h : n.inOrder p) (le : p.Le q) : n.inOrder q := by
  cases n with
  | token t =>
    rw [inOrder] at h ⊢
    exact ⟨h.1.trans le, fun symbol => (h.2 symbol).trans le.offset_le⟩
  | group opener closer children =>
    rw [inOrder] at h ⊢
    exact ⟨h.1, h.2.1, h.2.2.trans le⟩

theorem Node.front_le_dropWhile (p : Node Value → Bool) (h : Node.allInOrder stop ns) :
    Node.allInOrder stop (ns.dropWhile p) ∧
      (Node.front stop ns).Le (Node.front stop (ns.dropWhile p)) := by
  induction ns with
  | nil => exact ⟨h, .refl _⟩
  | cons n ns ih =>
    rw [List.dropWhile_cons]
    split
    · rw [allInOrder] at h
      exact ⟨(ih h.2).1, (Node.position_le h.1).trans (ih h.2).2⟩
    · exact ⟨h, .refl _⟩

end

namespace Cursor

/-- Whether all that is left is in order. -/
def InOrder (c : Cursor) : Prop := Node.allInOrder c.stop c.nodes

/-- The place of what comes next after line breaks. -/
def reached (c : Cursor) : Position := c.skipLines.position

variable {c : Cursor}

theorem position_eq_front (unsplit : c.split = 0) : c.position = Node.front c.stop c.nodes := by
  obtain ⟨nodes, split, stop⟩ := c
  cases unsplit
  rcases nodes with _ | ⟨_ | _, _⟩ <;> rfl

theorem skipLines_idem (c : Cursor) : c.skipLines.skipLines = c.skipLines := by
  unfold skipLines
  split
  · simp only [List.dropWhile_idempotent]
  · rfl

theorem reached_skipLines (c : Cursor) : c.skipLines.reached = c.reached :=
  congrArg position c.skipLines_idem

namespace InOrder

variable (h : c.InOrder)
include h

theorem skipLines : c.skipLines.InOrder := by
  unfold Cursor.skipLines
  split
  · exact (Node.front_le_dropWhile _ h).1
  · exact h

theorem position_le_reached : c.position.Le c.reached := by
  unfold reached Cursor.skipLines
  split
  · next unsplit =>
    rw [position_eq_front unsplit, position_eq_front (by exact unsplit)]
    exact (Node.front_le_dropWhile _ h).2
  · exact .refl _

theorem next : c.next.InOrder := by
  unfold InOrder at h ⊢
  unfold Cursor.next
  cases nodes : c.nodes with
  | nil =>
    rw [nodes] at h
    exact h
  | cons n rest =>
    rw [nodes, Node.allInOrder] at h
    exact h.2

theorem position_le_next (valid : c.Valid) : c.position.Le c.next.position := by
  have front : c.next.position = Node.front c.stop c.nodes.tail := position_eq_front rfl
  rw [front]
  rcases valid with unsplit | ⟨t, rest, nodes, symbol, inside⟩
  · rw [position_eq_front unsplit]
    cases nodes : c.nodes with
    | nil => exact .refl _
    | cons n rest =>
      rw [InOrder, nodes, Node.allInOrder] at h
      exact Node.position_le h.1
  · rw [InOrder, nodes, Node.allInOrder, Node.inOrder] at h
    have := h.1.2 symbol
    refine .inr ?_
    simp only [position, nodes, List.tail_cons]
    omega

theorem children {opener closer : Token Value} {inside rest : List (Node Value)}
    (nodes : c.nodes = .group opener closer inside :: rest) :
    Cursor.InOrder { nodes := inside, stop := closer.position } ∧
      c.position.Le (Cursor.position { nodes := inside, stop := closer.position }) ∧
      closer.position.Le c.next.position := by
  have front : c.next.position = Node.front c.stop c.nodes.tail := position_eq_front rfl
  have opens : c.position = opener.position := by simp [position, nodes]
  rw [front, opens, position_eq_front rfl, nodes]
  rw [InOrder, nodes, Node.allInOrder, Node.inOrder] at h
  exact ⟨h.1.2.1, h.1.1, h.1.2.2⟩

end InOrder

theorem position_le_split (c : Cursor) {t : Token Value} {rest : List (Node Value)}
    (nodes : c.nodes = .token t :: rest) (k : Nat) :
    c.position.Le (Cursor.position { c with split := c.split + k }) := by
  simp only [position, nodes]
  cases k with
  | zero => exact .refl _
  | succ k => exact .inr (by simp only; omega)

end Cursor

/-! ## Furthest places -/

namespace Furthest

variable {f f' : Furthest} {c c' : Cursor} {p q m : Position} {what what' : String}

/-- Everything was asked for at `m` or before it. -/
def Upto (m : Position) (f : Furthest) : Prop := ∀ p ∈ f.place, p.Le m

/-- Something was asked for at `m` or after it. -/
def Asked (m : Position) (f : Furthest) : Prop := ∃ p, f.place = some p ∧ m.offset ≤ p.offset

/-- The same furthest place, unless both are not after `m`. -/
def Near (m : Position) (f f' : Furthest) : Prop := f.place = f'.place ∨ f.Upto m ∧ f'.Upto m

theorem Upto.mono (h : f.Upto m) (le : m.Le q) : f.Upto q := fun p mem => (h p mem).trans le

theorem Near.mono (h : Near m f f') (le : m.Le q) : Near q f f' :=
  h.imp_right fun both => ⟨both.1.mono le, both.2.mono le⟩

theorem place_note (f : Furthest) (c : Cursor) (what : String) : (f.note c what).place =
    some (match f.place with
      | none => c.position
      | some p => if p.offset < c.position.offset then c.position else p) := by
  unfold note
  cases place : f.place with
  | none => rfl
  | some p =>
    rcases Nat.lt_trichotomy p.offset c.position.offset with less | same | more
    · simp [less, Nat.lt_asymm less, Nat.ne_of_lt less]
    · simp only [same, Nat.lt_irrefl, if_false, if_true]
      split <;> simp [place]
    · simp [more, Nat.lt_asymm more, place]

theorem Upto.place_note (h : f.Upto m) (le : m.Le c.position) :
    (f.note c what).place = some c.position := by
  rw [Furthest.place_note]
  cases place : f.place with
  | none => rfl
  | some p =>
    rcases (h p place).trans le with rfl | less
    · simp
    · simp [less]

/-- What is asked for at the same place makes furthest places the same. -/
theorem Near.note (h : Near m f f') (le : m.Le c.position) (here : c.position = c'.position) :
    (f.note c what).place = (f'.note c' what').place := by
  rcases h with same | ⟨upto, upto'⟩
  · rw [place_note, place_note, same, here]
  · rw [upto.place_note le, upto'.place_note (here ▸ le), here]

theorem asked_note (f : Furthest) (c : Cursor) (what : String) :
    (f.note c what).Asked c.position := by
  refine ⟨_, place_note f c what, ?_⟩
  cases f.place with
  | none => exact Nat.le_refl _
  | some p =>
    dsimp only
    split
    · exact Nat.le_refl _
    · next le => exact Nat.le_of_not_lt le

/-- What is asked for before a place that was asked at changes nothing. -/
theorem Asked.place_note (h : f.Asked m) (le : c.position.Le m) :
    (f.note c what).place = f.place := by
  obtain ⟨p, place, reached⟩ := h
  have := le.offset_le
  rw [Furthest.place_note, place]
  dsimp only
  rw [if_neg (by omega)]

/-- One may ask for more, not after `m`. -/
theorem Near.note_left (h : Near m f f') (here : c.position = m) :
    Near m (f.note c what) f' := by
  by_cases asked : f.Asked m
  · unfold Near Upto
    rw [asked.place_note (here ▸ .refl m)]
    exact h
  · have upto : f.Upto m ∧ f'.Upto m := by
      refine h.elim (fun same => ?_) id
      have upto : f.Upto m := fun p mem => .inr (Nat.lt_of_not_le fun le => asked ⟨p, mem, le⟩)
      exact ⟨upto, fun p mem => upto p (same ▸ mem)⟩
    refine .inr ⟨fun p mem => ?_, upto.2⟩
    rw [upto.1.place_note (here ▸ .refl m)] at mem
    cases mem
    exact here ▸ .refl _

end Furthest

end RuleMachine
