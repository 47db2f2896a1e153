import RuleMachine.Comparison
import RuleMachine.Pattern

/-!
# Programs

A program declares a start state and rules. A rule has a step, which matches the state and the
event, and an effect, which says what happens when it does.
-/

namespace RuleMachine

inductive Expr where
  | const (value : Value)
  | get (name : String)
  | list (items : List Expr)
  | record (fields : List (String × Expr))
  | tagged (name : String) (fields : List (String × Expr))
  | binary (op : Operator) (l r : Expr)
  | call (f : HostFn)

namespace Expr

/-- A field whose value is the binding of the field's own name. -/
def shorthand (key : String) : String × Expr := (key, get key)

/-- Operators applied one after the other, from the left. -/
def chain (head : Expr) (tail : List (Operator × Expr)) : Expr :=
  tail.foldl (fun acc (op, operand) => binary op acc operand) head

end Expr

inductive Cond where
  | compare (l : Expr) (op : Comparison) (r : Expr)
  | truthy (e : Expr)
  | call (f : HostFn)
  | all (cs : List Cond)
  | any (cs : List Cond)

/-- The left side of a rule. -/
inductive Step where
  | state (p : Pattern)
  | event (p : Pattern)
  | cond (c : Cond)
  | sequence (ss : List Step)
  | alternatives (ss : List Step)

mutual

/-- The right side of a rule. -/
inductive Effect where
  /-- Moves to the value of `next`, unless that is null, and takes the actions. -/
  | next (next : Expr) (actions : List Action)
  | only (actions : List Action)
  | guarded (e : Effect) (c : Cond)
  | alternatives (es : List Effect)

inductive Action where
  | dispatch (event : Expr)
  /-- Dispatches what `f` gives, once it is there. -/
  | await (f : HostFn)
  /-- Dispatches all events that `f` gives. -/
  | exec (f : HostFn)
  /-- Takes the actions of the first alternative that applies. -/
  | nested (e : Effect)

end

structure Rule where
  on : Step
  effect : Effect

/-- A state that `source` matches is also the state that `dest` gives. -/
structure Extension where
  dest : Expr
  source : Pattern

inductive Declaration where
  | start (e : Expr)
  | rule (r : Rule)
  | extension (e : Extension)
  | states (ps : List Pattern)
  | actions (ps : List Pattern)

namespace Declaration

def kind : Declaration → String
  | start _ => "start"
  | rule _ => "rule"
  | extension _ => "extends"
  | states _ => "states"
  | actions _ => "actions"

/-- The kind, with the number of patterns where there is one. -/
def summary : Declaration → String
  | states ps => s!"states({ps.length} patterns)"
  | actions ps => s!"actions({ps.length} patterns)"
  | d => d.kind

end Declaration

end RuleMachine
