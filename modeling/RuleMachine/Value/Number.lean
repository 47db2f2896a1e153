import RuleMachine.Decimal.Nearest
import RuleMachine.Decimal.Remainder
import RuleMachine.Text.Blank
import RuleMachine.Value.Display

/-!
# Arithmetic on values

Every operator but addition works on the numbers that its operands stand for. Addition joins the
texts of its operands when one of them is a string, a list or a record.
-/

namespace RuleMachine

namespace Value

/-- The number a value stands for. A string stands for the number written in it, blanks around it
left out, and an empty one for zero. -/
def toNumber : Value → Float
  | null => 0
  | bool b => if b then 1 else 0
  | number n => n
  | string s =>
    match Text.trim s.toList with
    | [] => 0
    | cs => (Decimal.read? cs).getD Decimal.notANumber
  | undefined | list .. | record .. | callable _ => Decimal.notANumber

/-- Values that addition takes as text. -/
def joins : Value → Bool
  | string _ | list .. | record .. => true
  | _ => false

end Value

/-- The arithmetic operators. -/
inductive Operator where
  | add
  | sub
  | mul
  | div
  | rem
  | pow
  deriving DecidableEq, Repr

namespace Operator

def symbol : Operator → String
  | add => "+"
  | sub => "-"
  | mul => "*"
  | div => "/"
  | rem => "%"
  | pow => "**"

def all : List Operator := [add, sub, mul, div, rem, pow]

/-- The operator with a given symbol. -/
def ofSymbol? (text : String) : Option Operator := all.find? (·.symbol = text)

/-- The operator with a given symbol, or a message that names the symbol. -/
def parse (text : String) : Except String Operator :=
  match ofSymbol? text with
  | some op => .ok op
  | none => .error s!"unknown operator '{text}'"

def apply (op : Operator) (l r : Value) : Value :=
  match op with
  | add =>
    if l.joins || r.joins then .string (l.display ++ r.display)
    else .number (l.toNumber + r.toNumber)
  | sub => .number (l.toNumber - r.toNumber)
  | mul => .number (l.toNumber * r.toNumber)
  | div => .number (l.toNumber / r.toNumber)
  | rem => .number (Decimal.remainder l.toNumber r.toNumber)
  | pow => .number (l.toNumber.pow r.toNumber)

theorem parse_symbol (op : Operator) : parse op.symbol = .ok op := by
  cases op <;> rfl

end Operator

end RuleMachine
