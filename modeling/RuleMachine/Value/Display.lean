import RuleMachine.Decimal.Shortest
import RuleMachine.Value.Basic

/-!
# The text of a value

A string is its own text; the items of a list stand between commas, the fields of a record between
braces in the order of their keys.
-/

namespace RuleMachine.Value

mutual

def display : Value → String
  | undefined => "undefined"
  | null => "null"
  | bool b => if b then "true" else "false"
  | number n => Decimal.display n
  | string s => s
  | list _ items => ",".intercalate (displayItems items)
  | record _ fields => "\x7b" ++ ", ".intercalate (displayFields fields) ++ "\x7d"
  | callable f => "[fn " ++ f.name ++ "]"

def displayItems : List Value → List String
  | [] => []
  | v :: vs => display v :: displayItems vs

def displayFields : List (String × Value) → List String
  | [] => []
  | (key, v) :: fields => (key ++ ": " ++ display v) :: displayFields fields

end

end RuleMachine.Value
