import RuleMachine.Proofs.Grammar.Plain
import RuleMachine.Proofs.Source.Spelling
import RuleMachine.Proofs.Terms.Basic

/-!
# Reading terms

How the nodes of an expression are put together from the nodes of its parts, at each level of
precedence.
-/

namespace RuleMachine

open Plain

/-- The nodes go on with no operator of a level or a higher one. -/
def Stops (level : Nat) (ns : List (Node Value)) : Prop :=
  ∀ (op : Operator) (stop : Position), level ≤ op.level →
    Parse.terminal (.symbol op.symbol) { nodes := ns, stop } () = .mismatch ()

namespace Stops

variable {level : Nat} {ns : List (Node Value)} {text : String} {p : Position}

theorem nil : Stops level [] := fun _ _ _ => Parse.terminal_nil _

theorem operand {n : Node Value} (h : n.isOperand) : Stops level (n :: ns) :=
  fun _ _ _ => Parse.terminal_operand h _

theorem comma : Stops level (.token ⟨.punctuation, ",", p⟩ :: ns) := by
  intro op stop _
  cases op <;> simp [Operator.symbol]

theorem line (h : Stops level ns) : Stops level (.token ⟨.line, text, p⟩ :: ns) := by
  intro op stop le
  rw [Parse.terminal_line, h op stop le]

/-- An operator of a lower level is not one of a higher level, nor does it begin with one. -/
theorem operator {op : Operator} (less : op.level < level) :
    Stops level (.token ⟨.operator, op.symbol, p⟩ :: ns) := by
  intro op' stop le
  have higher : op.level < op'.level := Nat.lt_of_lt_of_le less le
  cases op <;> cases op' <;> first | exact absurd higher (by decide) | simp [Operator.symbol]

theorem mono {level' : Nat} (h : Stops level ns) (le : level ≤ level') : Stops level' ns :=
  fun op stop le' => h op stop (Nat.le_trans le le')

end Stops

/-- Nodes that begin with an operand and that a production reads as `x`, if what follows does not go
on at the level. -/
structure Reads {α : Type} (n : Production α) (level : Nat) (ns : List (Node Value)) (x : α) :
    Prop where
  operand : ∃ m ms, ns = m :: ms ∧ m.isOperand
  reads : ∀ rest stop, Stops level rest →
    n.read { nodes := ns ++ rest, stop } () = .ok x { nodes := rest, stop } ()

/-! ## Chains of operators -/

/-- An operator and its right operand. -/
def link (ops : Phrase Production Operator) (part : Production Expr) :
    Phrase Production (Operator × Expr) :=
  Prod.mk <$> ops <*> .production part

/-- A production that reads parts with operators of a level between them, from the left. -/
structure Chains (n part : Production Expr) (ops : Phrase Production Operator) (level : Nat) :
    Prop where
  phrase : n.phrase = Expr.chain <$> .production part <*> .many (link ops part)
  takes : ∀ {op : Operator}, op.level = level → ∀ p ns stop,
    ops.parse Production.read { nodes := .token ⟨.operator, op.symbol, p⟩ :: ns, stop } () =
      .ok op { nodes := ns, stop } ()
  refuses : ∀ {ns}, Stops level ns → ∀ stop,
    ops.parse Production.read { nodes := ns, stop } () = .mismatch ()

def sums : Phrase Production Operator :=
  .oneOf [Production.operator "+" .add, Production.operator "-" .sub, .fail none]

def products : Phrase Production Operator :=
  .oneOf [Production.operator "*" .mul, Production.operator "/" .div,
    Production.operator "%" .rem, .fail none]

theorem chains_expr : Chains .expr .product sums 0 where
  phrase := rfl
  takes {op} level p ns stop := by
    cases op <;> simp_all [sums, Operator.symbol, Operator.level]
  refuses stops stop := by
    have add := stops .add stop (Nat.le_refl _)
    have sub := stops .sub stop (Nat.le_refl _)
    simp only [Operator.symbol] at add sub
    simp [sums, add, sub]

theorem chains_product : Chains .product .power products 1 where
  phrase := rfl
  takes {op} level p ns stop := by
    cases op <;> simp_all [products, Operator.symbol, Operator.level]
  refuses stops stop := by
    have mul := stops .mul stop (Nat.le_refl _)
    have div := stops .div stop (Nat.le_refl _)
    have rem := stops .rem stop (Nat.le_refl _)
    simp only [Operator.symbol] at mul div rem
    simp [products, mul, div, rem]

/-- Nodes that a production reads as an expression and then goes on with what comes next. -/
structure Heads (n part : Production Expr) (ops : Phrase Production Operator) (level : Nat)
    (ns : List (Node Value)) (x : Expr) : Prop where
  operand : ∃ m ms, ns = m :: ms ∧ m.isOperand
  reads : ∀ rest stop tail d, Stops (level + 1) rest →
    (Phrase.many (link ops part)).parse Production.read { nodes := rest, stop } () = .ok tail d () →
    n.read { nodes := ns ++ rest, stop } () = .ok (x.chain tail) d ()

namespace Chains

variable {n part : Production Expr} {ops : Phrase Production Operator} {level : Nat}
  {ns ms : List (Node Value)} {x l r : Expr}

theorem head (h : Chains n part ops level) (first : Reads part (level + 1) ns x) :
    Heads n part ops level ns x where
  operand := first.operand
  reads rest stop tail d stops more := by
    rw [n.read_eq (.inl rfl), h.phrase]
    simp [first.reads rest stop stops, more]

theorem operator (h : Chains n part ops level) {op : Operator} (same : op.level = level)
    (left : Heads n part ops level ns l) (right : Reads part (level + 1) ms r) (p : Position) :
    Heads n part ops level (ns ++ .token ⟨.operator, op.symbol, p⟩ :: ms) (.binary op l r) where
  operand := left.operand.imp fun m => by
    rintro ⟨ns, rfl, operand⟩
    exact ⟨_, rfl, operand⟩
  reads rest stop tail d stops more := by
    have next : Stops (level + 1) (.token ⟨.operator, op.symbol, p⟩ :: (ms ++ rest)) :=
      .operator (by omega)
    have consumes : (link ops part).consumes := by simp [link]
    have taken : (link ops part).parse Production.read
        { nodes := .token ⟨.operator, op.symbol, p⟩ :: (ms ++ rest), stop } () =
          .ok (op, r) { nodes := rest, stop } () := by
      simp [link, h.takes same, right.reads rest stop stops]
    rw [List.append_assoc, List.cons_append]
    refine left.reads _ stop ((op, r) :: tail) d next ?_
    rw [Phrase.parse_many consumes (.inl rfl)]
    simp [taken, more]

theorem reads (h : Chains n part ops level) (heads : Heads n part ops level ns x) :
    Reads n level ns x where
  operand := heads.operand
  reads rest stop stops := by
    have consumes : (link ops part).consumes := by simp [link]
    refine heads.reads rest stop [] _ (stops.mono (Nat.le_succ _)) ?_
    rw [Phrase.parse_many consumes (.inl rfl)]
    simp [link, h.refuses stops]

end Chains

/-! ## Powers -/

namespace Reads

variable {ns ms : List (Node Value)} {x l r : Expr}

theorem power (h : Reads .operand 3 ns x) : Reads .power 2 ns x where
  operand := h.operand
  reads rest stop stops := by
    have refuses := stops .pow stop (Nat.le_refl _)
    simp only [Operator.symbol] at refuses
    rw [Production.read_eq _ (.inl rfl)]
    simp [h.reads rest stop fun op stop le => absurd le (by cases op <;> decide), refuses]

theorem pow (left : Reads .operand 3 ns l) (right : Reads .power 2 ms r) (p : Position) :
    Reads .power 2 (ns ++ .token ⟨.operator, "**", p⟩ :: ms) (.binary .pow l r) where
  operand := left.operand.imp fun m => by
    rintro ⟨ns, rfl, operand⟩
    exact ⟨_, rfl, operand⟩
  reads rest stop stops := by
    rw [Production.read_eq _ (.inl rfl), List.append_assoc, List.cons_append]
    simp [left.reads _ stop fun op stop le => absurd le (by cases op <;> decide),
      right.reads rest stop stops]

end Reads

/-! ## Levels -/

/-- How the nodes of an expression are read if it may stand at a level. -/
def ReadsAt : Nat → List (Node Value) → Expr → Prop
  | 0 => Heads .expr .product sums 0
  | 1 => Heads .product .power products 1
  | 2 => Reads .power 2
  | _ => Reads .operand 3

namespace ReadsAt

variable {level level' : Nat} {ns ms : List (Node Value)} {x l r : Expr}

theorem lower (h : ReadsAt (level + 1) ns x) : ReadsAt level ns x :=
  match level, h with
  | 0, h => chains_expr.head (chains_product.reads h)
  | 1, h => chains_product.head h
  | 2, h => Reads.power h
  | _ + 3, h => h

theorem mono (le : level ≤ level') (h : ReadsAt level' ns x) : ReadsAt level ns x := by
  induction le with
  | refl => exact h
  | step _ ih => exact ih h.lower

theorem of_operand (h : Reads .operand 3 ns x) (level : Nat) : ReadsAt level ns x :=
  mono (Nat.le_add_right level 3) h

theorem reads (h : ReadsAt 0 ns x) : Reads .expr 0 ns x := chains_expr.reads h

theorem binary (op : Operator) (left : ReadsAt op.leftLevel ns l)
    (right : ReadsAt op.rightLevel ms r) (p : Position) :
    ReadsAt op.level (ns ++ .token ⟨.operator, op.symbol, p⟩ :: ms) (.binary op l r) :=
  match op, left, right with
  | .add, left, right | .sub, left, right =>
    chains_expr.operator rfl left (chains_product.reads right) p
  | .mul, left, right | .div, left, right | .rem, left, right =>
    chains_product.operator rfl left right p
  | .pow, left, right => Reads.pow left right p

end ReadsAt

/-! ## Operands -/

namespace Parse

variable {α : Type} {r : Parse Unit α} {b : Bracket} {p q stop : Position}
  {inside ns : List (Node Value)}

theorem group_other {b' : Bracket} (h : b' ≠ b) :
    group b r { nodes := .group (b'.opens p) (b'.closes q) inside :: ns, stop } () =
      .mismatch () := by
  cases b <;> cases b' <;> first | rfl | exact absurd rfl h

theorem group_whole {a : α} (whole : r { nodes := inside, stop := q } () =
    .ok a { nodes := [], stop := q } ()) :
    group b r { nodes := .group (b.opens p) (b.closes q) inside :: ns, stop } () =
      .ok a { nodes := ns, stop } () := by
  simp [group, Bracket.opens, Bracket.closes, whole, finish]

end Parse

section

variable (p q : Position) {ns ms : List (Node Value)} {x : Expr}

theorem reads_identifier (x : Identifier) :
    Reads .operand 3 [.token ⟨.identifier, x.text, p⟩] (.get x.text) where
  operand := ⟨_, _, rfl, rfl⟩
  reads rest stop _ := by
    simp (disch := first | decide | simp) [x.ne, x.free]

theorem reads_quoted (s text : String) :
    Reads .operand 3 [.token ⟨.literal (.quoted s), text, p⟩] (.const (.string s)) where
  operand := ⟨_, _, rfl, rfl⟩
  reads rest stop _ := by simp

theorem reads_number (n : Float) (text : String) :
    Reads .operand 3 [.token ⟨.literal (.number n), text, p⟩] (.const (.number n)) where
  operand := ⟨_, _, rfl, rfl⟩
  reads rest stop _ := by simp

theorem reads_constant (c : Constant) :
    Reads .operand 3 [.token ⟨.identifier, c.word, p⟩] (.const c.value) where
  operand := ⟨_, _, rfl, rfl⟩
  reads rest stop _ := by cases c <;> simp [Constant.word, Constant.value]

theorem reads_tagExpr (h : Reads .expr 0 ns x) : Reads .tagExpr 0 ns x where
  operand := h.operand
  reads rest stop stops := by
    have value := h.reads rest stop stops
    obtain ⟨n, ms, rfl, operand⟩ := h.operand
    rw [List.cons_append] at value ⊢
    rw [Production.read_cons]
    simp [Parse.terminal_operand operand, value, -Production.read_cons]

theorem reads_round (h : Reads .expr 0 ns x) :
    Reads .operand 3 [.group (Bracket.round.opens p) (Bracket.round.closes q) ns] x where
  operand := ⟨_, _, rfl, rfl⟩
  reads rest stop _ := by
    have whole := (reads_tagExpr h).reads [] q .nil
    rw [List.append_nil] at whole
    rw [List.cons_append, Production.read_cons]
    simp [Parse.group_whole whole, -Production.read_cons]

end

/-! ## Lists -/

/-- Nodes that are read as items with commas between them. -/
def ReadsList {α : Type} (n : Production α) (ns : List (Node Value)) (as : List α) : Prop :=
  ∀ stop, (Phrase.commaList (.production n)).parse Production.read { nodes := ns, stop } () =
    .ok as { nodes := [], stop } ()

/-- Nodes that are read as items with a comma in front of each. -/
structure ReadsRest {α : Type} (n : Production α) (ns : List (Node Value)) (as : List α) :
    Prop where
  stops : Stops 0 ns
  reads : ∀ stop, Parse.commaRest (Phrase.production n |>.parse Production.read)
    (Cursor.steps { nodes := ns, stop }) { nodes := ns, stop } () = .ok as { nodes := [], stop } ()

/-- Nodes that are read as items of a line. -/
structure ReadsLine {α : Type} (n : Production α) (ns : List (Node Value)) (as : List α) :
    Prop where
  stops : Stops 0 ns
  reads : ∀ stop, (Phrase.lineList (.production n)).parse Production.read { nodes := ns, stop } () =
    .ok as { nodes := [], stop } ()

section

variable {α : Type} {n : Production α} {ns ms : List (Node Value)} {a : α} {as : List α}

theorem Stops.of_reads (h : Reads n 0 ns a) (ms : List (Node Value)) : Stops 0 (ns ++ ms) := by
  obtain ⟨m, ns, rfl, operand⟩ := h.operand
  exact .operand operand

theorem ReadsRest.nil : ReadsRest n [] [] where
  stops := .nil
  reads stop := by
    rw [Phrase.commaRest_eq _ (.inl rfl)]
    simp

theorem ReadsRest.cons (h : Reads n 0 ns a) (h' : ReadsRest n ms as) (p : Position) :
    ReadsRest n (.token ⟨.punctuation, ",", p⟩ :: (ns ++ ms)) (a :: as) where
  stops := .comma
  reads stop := by
    have item := h.reads ms stop h'.stops
    have more := h'.reads stop
    obtain ⟨m, ns, rfl, operand⟩ := h.operand
    rw [Phrase.commaRest_eq _ (.inl rfl)]
    simp only [Phrase.parse_production, List.cons_append] at item more ⊢
    simp [Cursor.skipLines_operand operand, more, item, -Production.read_cons]

theorem ReadsList.nil : ReadsList n [] [] := fun stop => by simp

theorem ReadsList.cons (h : Reads n 0 ns a) (h' : ReadsRest n ms as) :
    ReadsList n (ns ++ ms) (a :: as) := by
  intro stop
  have item := h.reads ms stop h'.stops
  have more := h'.reads stop
  obtain ⟨m, ns, rfl, operand⟩ := h.operand
  simp only [Phrase.parse_production, List.cons_append] at item more ⊢
  simp [Cursor.skipLines_operand operand, more, item, -Production.read_cons]

theorem ReadsLine.nil : ReadsLine n [] [] where
  stops := .nil
  reads stop := by
    rw [Phrase.parse_lineList rfl (.inl rfl)]
    rfl

theorem ReadsLine.cons (h : Reads n 0 ns a) (h' : ReadsLine n ms as) :
    ReadsLine n (ns ++ ms) (a :: as) where
  stops := .of_reads h ms
  reads stop := by
    have item := h.reads ms stop h'.stops
    have inLine : Cursor.atLineOrEnd { nodes := ns ++ ms, stop } = false := by
      obtain ⟨m, ns, rfl, operand⟩ := h.operand
      exact Cursor.atLineOrEnd_operand operand
    rw [Phrase.parse_lineList rfl (.inl rfl), inLine]
    simp [item, h'.reads stop]

end

/-! ## Groups -/

section

variable (p q : Position) {ns : List (Node Value)}

theorem reads_square {items : List Expr} (h : ReadsList .expr ns items) :
    Reads .operand 3 [.group (Bracket.square.opens p) (Bracket.square.closes q) ns]
      (.list items) where
  operand := ⟨_, _, rfl, rfl⟩
  reads rest stop _ := by
    rw [List.cons_append, Production.read_cons]
    simp [Parse.group_other, Parse.group_whole (h q)]

theorem reads_curly {fields : List (String × Expr)} (h : ReadsList .exprField ns fields) :
    Reads .operand 3 [.group (Bracket.curly.opens p) (Bracket.curly.closes q) ns]
      (.record fields) where
  operand := ⟨_, _, rfl, rfl⟩
  reads rest stop _ := by
    rw [List.cons_append, Production.read_cons]
    simp [Parse.group_other, Parse.group_whole (h q)]

theorem reads_tagged {name : String} {fields : List (String × Expr)}
    (h : ReadsLine .exprField ns fields) (hash word : Position) :
    Reads .operand 3 [.group (Bracket.round.opens p) (Bracket.round.closes q)
      (.token ⟨.operator, "#", hash⟩ :: .token ⟨.identifier, name, word⟩ :: ns)]
      (.tagged name fields) where
  operand := ⟨_, _, rfl, rfl⟩
  reads rest stop _ := by
    have tagExpr : Production.tagExpr.read
        { nodes := .token ⟨.operator, "#", hash⟩ :: .token ⟨.identifier, name, word⟩ :: ns
          stop := q } () = .ok (.tagged name fields) { nodes := [], stop := q } () := by
      have lined := h.reads q
      rw [Production.read_cons]
      simp [lined, -Phrase.parse_lineList]
    rw [List.cons_append, Production.read_cons]
    simp [Parse.group_whole tagExpr, -Production.read_cons]

/-! ## Fields -/

theorem fieldKey_identifier (x : Identifier) (rest : List (Node Value)) (stop : Position) :
    Production.fieldKey.read { nodes := .token ⟨.identifier, x.text, p⟩ :: rest, stop } () =
      .ok x.text { nodes := rest, stop } () := by
  simp [x.free]

theorem fieldKey_quoted (s text : String) (rest : List (Node Value)) (stop : Position) :
    Production.fieldKey.read { nodes := .token ⟨.literal (.quoted s), text, p⟩ :: rest, stop } () =
      .ok s { nodes := rest, stop } () := by
  simp

theorem reads_field {n : Node Value} {name : String} {x : Expr} (operand : n.isOperand)
    (key : ∀ rest stop, Production.fieldKey.read { nodes := n :: rest, stop } () =
      .ok name { nodes := rest, stop } ()) (h : Reads .expr 0 ns x) (colon : Position) :
    Reads .exprField 0 (n :: .token ⟨.operator, ":", colon⟩ :: ns) (name, x) where
  operand := ⟨_, _, rfl, operand⟩
  reads rest stop stops := by
    rw [List.cons_append, List.cons_append, Production.read_cons]
    simp [key, h.reads rest stop stops, -Production.read_cons]

end

end RuleMachine
