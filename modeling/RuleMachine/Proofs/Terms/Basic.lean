import RuleMachine.Evaluation
import RuleMachine.Grammar.Productions
import RuleMachine.Proofs.Source.Lexemes

/-!
# Terms

Terms are expressions as one thinks of them, without regard to how they are written: names,
literals, lists, records, tagged records and operators. A term can be written (`Term.render`), with
parentheses only where precedence asks for them; it has an expression (`Term.expr`), and it denotes
values (`Term.Denotes`).
-/

namespace RuleMachine

/-- Text that is a name. -/
structure Name where
  text : String
  begins : text.toList.head?.any Lexeme.beginsName
  continues : text.toList.tail.all Lexeme.continuesName

/-- A name that is no part of the grammar. -/
structure Identifier extends Name where
  free : text ∉ keywords

theorem Identifier.ne (x : Identifier) {word : String} (keyword : word ∈ keywords) :
    x.text ≠ word := by
  rintro rfl
  exact x.free keyword

/-- Text that fits on a line. -/
structure Line where
  text : String
  unbroken : '\n' ∉ text.toList

/-- Digits, and underscores between them. -/
structure Numeral where
  text : String
  begins : text.toList.head?.any Char.isDigit
  continues : text.toList.tail.all Lexeme.isDigitOrGap

inductive Constant where
  | true
  | false
  | null
  | undefined

/-- What a field is called by. -/
inductive Key where
  | identifier (x : Identifier)
  | quoted (s : Line)

namespace Line

/-- The text in double quotes. -/
def quoted (s : Line) : String := String.ofList (Lexeme.inQuotes '"' s.text.toList)

end Line

namespace Numeral

/-- The double nearest to the number that the digits denote. -/
def value (n : Numeral) : Float :=
  Decimal.nearest (Decimal.ofDigits (n.text.toList.filter (· ≠ '_'))) 0

end Numeral

namespace Constant

def word : Constant → String
  | true => "true"
  | false => "false"
  | null => "null"
  | undefined => "undefined"

def value : Constant → Value
  | true => .bool .true
  | false => .bool .false
  | null => .null
  | undefined => .undefined

end Constant

namespace Key

/-- The name of the field. -/
def name : Key → String
  | identifier x => x.text
  | quoted s => s.text

/-- The name as it is written. -/
def render : Key → String
  | identifier x => x.text
  | quoted s => s.quoted

end Key

inductive Term where
  | identifier (x : Identifier)
  | quoted (s : Line)
  | constant (c : Constant)
  | number (n : Numeral)
  | list (items : List Term)
  | record (fields : List (Key × Term))
  | tagged (name : Name) (fields : List (Key × Term))
  | binary (op : Operator) (l r : Term)

namespace Operator

/-- How tightly an operator binds. -/
def level : Operator → Nat
  | add | sub => 0
  | mul | div | rem => 1
  | pow => 2

/-- How tightly the left operand has to bind to stand without parentheses. Powers are taken from the
right, all else from the left. -/
def leftLevel : Operator → Nat
  | pow => 3
  | op => op.level

def rightLevel : Operator → Nat
  | pow => 2
  | op => op.level + 1

end Operator

namespace Term

mutual

/-- A term as it is written where operators below a level need parentheses. -/
def render : Term → Nat → String
  | identifier x, _ => x.text
  | quoted s, _ => s.quoted
  | constant c, _ => c.word
  | number n, _ => n.text
  | list items, _ => "[" ++ ", ".intercalate (renderItems items) ++ "]"
  | record fields, _ => "\x7b" ++ ", ".intercalate (renderFields fields) ++ "\x7d"
  | tagged name fields, _ => "(#" ++ " ".intercalate (name.text :: renderFields fields) ++ ")"
  | binary op l r, level =>
    let text := render l op.leftLevel ++ (" " ++ op.symbol ++ " ") ++ render r op.rightLevel
    if op.level < level then "(" ++ text ++ ")" else text

def renderItems : List Term → List String
  | [] => []
  | e :: es => render e 0 :: renderItems es

def renderFields : List (Key × Term) → List String
  | [] => []
  | (key, e) :: fields => (key.render ++ ": " ++ render e 0) :: renderFields fields

end

mutual

/-- The expression that a term is. -/
def expr : Term → Expr
  | identifier x => .get x.text
  | quoted s => .const (.string s.text)
  | constant c => .const c.value
  | number n => .const (.number n.value)
  | list items => .list (exprs items)
  | record fields => .record (exprFields fields)
  | tagged name fields => .tagged name.text (exprFields fields)
  | binary op l r => .binary op (expr l) (expr r)

def exprs : List Term → List Expr
  | [] => []
  | e :: es => expr e :: exprs es

def exprFields : List (Key × Term) → List (String × Expr)
  | [] => []
  | (key, e) :: fields => (key.name, expr e) :: exprFields fields

end

mutual

/-- Whether a term denotes a value in a scope. Lists and records may be any allocation. -/
def Denotes (s : Scope) : Term → Value → Prop
  | identifier x, v => v = s.get x.text
  | quoted text, v => v = .string text.text
  | constant c, v => v = c.value
  | number n, v => v = .number n.value
  | list items, v => ∃ allocation vs, DenoteItems s items vs ∧ v = .list allocation vs
  | record fields, v =>
    ∃ allocation kvs, DenoteFields s fields kvs ∧ v = .record allocation (Entries.ofPairs kvs)
  | tagged name fields, v => ∃ allocation kvs, DenoteFields s fields kvs ∧
      v = .record allocation (Value.taggedFields name.text kvs)
  | binary op l r, v => ∃ a b, Denotes s l a ∧ Denotes s r b ∧ v = op.apply a b

def DenoteItems (s : Scope) : List Term → List Value → Prop
  | [], vs => vs = []
  | e :: es, vs => ∃ v ws, Denotes s e v ∧ DenoteItems s es ws ∧ vs = v :: ws

def DenoteFields (s : Scope) : List (Key × Term) → List (String × Value) → Prop
  | [], kvs => kvs = []
  | (key, e) :: fields, kvs =>
    ∃ v kws, Denotes s e v ∧ DenoteFields s fields kws ∧ kvs = (key.name, v) :: kws

end

variable [Regex.Engine] {σ : Type} (call : HostFn → Scope → Run σ Value) (s : Scope)

mutual

/-- Evaluation gives a value that the term denotes. -/
theorem denotes_eval : (e : Term) → (w : World σ) → e.Denotes s (e.expr.eval call s w).1
  | identifier x, w => by simp only [Denotes, expr, Expr.eval]; rfl
  | quoted text, w => by simp only [Denotes, expr, Expr.eval]; rfl
  | constant c, w => by simp only [Denotes, expr, Expr.eval]; rfl
  | number n, w => by simp only [Denotes, expr, Expr.eval]; rfl
  | list items, w => by
    rw [Denotes, expr, Expr.eval]
    exact ⟨_, _, denoteItems_eval items w, rfl⟩
  | record fields, w => by
    rw [Denotes, expr, Expr.eval]
    exact ⟨_, _, denoteFields_eval fields w, rfl⟩
  | tagged name fields, w => by
    rw [Denotes, expr, Expr.eval]
    exact ⟨_, _, denoteFields_eval fields w, rfl⟩
  | binary op l r, w => by
    rw [Denotes, expr, Expr.eval]
    exact ⟨_, _, denotes_eval l w, denotes_eval r _, rfl⟩

theorem denoteItems_eval : (items : List Term) → (w : World σ) →
    DenoteItems s items (Expr.evalItems call (exprs items) s w).1
  | [], w => by rw [DenoteItems, exprs, Expr.evalItems]; rfl
  | e :: es, w => by
    rw [DenoteItems, exprs, Expr.evalItems]
    exact ⟨_, _, denotes_eval e w, denoteItems_eval es _, rfl⟩

theorem denoteFields_eval : (fields : List (Key × Term)) → (w : World σ) →
    DenoteFields s fields (Expr.evalFields call (exprFields fields) s w).1
  | [], w => by rw [DenoteFields, exprFields, Expr.evalFields]; rfl
  | (key, e) :: fields, w => by
    rw [DenoteFields, exprFields, Expr.evalFields]
    exact ⟨_, _, denotes_eval e w, denoteFields_eval fields _, rfl⟩

end

end Term

end RuleMachine
