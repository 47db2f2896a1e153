import RuleMachine.Program

/-!
# Machines

A machine is what the declarations of a program add up to: its one start expression, and the
rules, extensions and declared patterns each in the order of their declaration.
-/

namespace RuleMachine

/-- The limits that a store keeps. -/
structure Limits where
  /-- How many dispatches may be in progress at once. -/
  dispatchDepth : Nat := 128
  /-- How many states the closure of a state may have. -/
  extendedStates : Nat := 64
  deriving DecidableEq, Repr

structure Machine where
  start : Expr
  rules : List Rule
  extensions : List Extension
  states : List Pattern
  actions : List Pattern
  limits : Limits

/-- Why declarations make no machine. -/
inductive MachineError where
  | missingStart
  | multipleStart (count : Nat)
  deriving DecidableEq

namespace MachineError

def code : MachineError → String
  | missingStart => "MISSING_START"
  | multipleStart _ => "MULTIPLE_START"

def message : MachineError → String
  | missingStart => "machine must declare a start state"
  | multipleStart n => s!"machine must declare exactly one start state, found {n}"

end MachineError

/-- Declarations sorted by their kind, each kind in order. -/
structure Parts where
  starts : List Expr := []
  rules : List Rule := []
  extensions : List Extension := []
  states : List Pattern := []
  actions : List Pattern := []

namespace Parts

/-- Adds a declaration behind those of its kind. -/
def add (p : Parts) : Declaration → Parts
  | .start e => { p with starts := p.starts ++ [e] }
  | .rule r => { p with rules := p.rules ++ [r] }
  | .extension e => { p with extensions := p.extensions ++ [e] }
  | .states ps => { p with states := p.states ++ ps }
  | .actions ps => { p with actions := p.actions ++ ps }

def ofDeclarations (ds : List Declaration) : Parts := ds.foldl add {}

end Parts

namespace Machine

/-- The machine of a program, which must declare exactly one start state. -/
def compile (limits : Limits) (ds : List Declaration) : Except MachineError Machine :=
  let p := Parts.ofDeclarations ds
  match p.starts with
  | [] => .error .missingStart
  | [start] =>
    .ok { start, rules := p.rules, extensions := p.extensions, states := p.states
          actions := p.actions, limits }
  | starts => .error (.multipleStart starts.length)

/-- Whether a declaration of states names the value, or there is none. -/
def declaresState (m : Machine) (v : Value) : Bool := Pattern.anyAccepts m.states v

/-- Whether a declaration of actions names the value, or there is none. -/
def declaresAction (m : Machine) (v : Value) : Bool := Pattern.anyAccepts m.actions v

end Machine

end RuleMachine
