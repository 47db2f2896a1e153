import RuleMachine.Regex.Cache
import RuleMachine.Value.Equality
import RuleMachine.Value.Number

/-!
# Comparisons

Two strings are ordered by their characters, other values by the numbers they stand for; where a
value stands for no number, no ordering holds. A string contains what matches the pattern that the
other operand's text is. `holds` says when a comparison holds, `evaluate` finds it out with the
patterns kept compiled, and both agree (`evaluate_fst`).
-/

namespace RuleMachine

/-- The comparison operators. -/
inductive Comparison where
  | eq
  | ne
  | gt
  | ge
  | lt
  | le
  | isIn
  | notIn
  | is
  | isNot
  deriving DecidableEq, Repr

namespace Comparison

def symbol : Comparison → String
  | eq => "=="
  | ne => "!="
  | gt => ">"
  | ge => ">="
  | lt => "<"
  | le => "<="
  | isIn => "in"
  | notIn => "not in"
  | is => "is"
  | isNot => "is not"

def all : List Comparison := [eq, ne, gt, ge, lt, le, isIn, notIn, is, isNot]

/-- The comparison with a given symbol. -/
def ofSymbol? (text : String) : Option Comparison := all.find? (·.symbol = text)

/-- The comparison with a given symbol, or a message that names the symbol. -/
def parse (text : String) : Except String Comparison :=
  match ofSymbol? text with
  | some op => .ok op
  | none => .error s!"unknown comparison '{text}'"

theorem parse_symbol (op : Comparison) : parse op.symbol = .ok op := by
  cases op <;> rfl

end Comparison

namespace Value

/-- Orders two strings by their characters, other values as numbers. -/
def compare? (l r : Value) : Option Ordering :=
  match l, r with
  | string a, string b => some (if a < b then .lt else if a = b then .eq else .gt)
  | l, r =>
    let a := l.toNumber
    let b := r.toNumber
    if a < b then some .lt else if a == b then some .eq else if b < a then some .gt else none

variable [Regex.Engine]

/-- Membership: an item of a list, a match of a pattern in a string, a key of a record. -/
def contains (haystack needle : Value) : Bool :=
  match haystack with
  | list _ items => items.any fun item => same item needle
  | string s => Regex.Engine.search needle.display s
  | record _ fields => Entries.contains needle.display fields
  | _ => false

/-- Membership, found with the patterns kept compiled. -/
def containsWith (cache : Regex.Cache) (haystack needle : Value) : Bool × Regex.Cache :=
  match haystack with
  | string s => cache.isMatch needle.display s
  | haystack => (contains haystack needle, cache)

theorem containsWith_fst (cache : Regex.Cache) (haystack needle : Value) :
    (containsWith cache haystack needle).1 = contains haystack needle := by
  cases haystack <;> first | rfl | exact Regex.Cache.isMatch_fst ..

end Value

namespace Comparison

variable [Regex.Engine]

/-- When a comparison holds of two values. -/
def holds (op : Comparison) (l r : Value) : Bool :=
  match op with
  | eq => Value.shallowEq l r
  | ne => !Value.shallowEq l r
  | gt => Value.compare? l r = some .gt
  | ge => Value.compare? l r = some .gt || Value.compare? l r = some .eq
  | lt => Value.compare? l r = some .lt
  | le => Value.compare? l r = some .lt || Value.compare? l r = some .eq
  | isIn => Value.contains r l
  | notIn => !Value.contains r l
  | is => Value.same l r
  | isNot => !Value.same l r

/-- The answer of a comparison, with the patterns kept compiled before and after. -/
def evaluate (cache : Regex.Cache) (op : Comparison) (l r : Value) : Bool × Regex.Cache :=
  match op with
  | isIn => Value.containsWith cache r l
  | notIn =>
    let (found, cache) := Value.containsWith cache r l
    (!found, cache)
  | op => (op.holds l r, cache)

theorem evaluate_fst (cache : Regex.Cache) (op : Comparison) (l r : Value) :
    (op.evaluate cache l r).1 = op.holds l r := by
  cases op <;> simp [evaluate, holds, Value.containsWith_fst]

end Comparison

end RuleMachine
