/-!
# Outcomes

A match that fails is no error but one of the two outcomes of matching. Patterns, steps and effects
run through lists in two ways: threading an accumulator up to the first failure (`thread`), and
trying alternatives up to the first success (`firstSuccess`).
-/

namespace RuleMachine

/-- The result of a match: a success with its value, or a failure. -/
abbrev Outcome (α : Type) := Option α

namespace Outcome

variable {α β : Type} {m : Type → Type} [Monad m]

/-- Success with `value` if the condition holds. -/
def when (condition : Bool) (value : α) : Outcome α := if condition then some value else none

/-- Threads an accumulator and the index through the items, up to the first failure. -/
def thread (f : β → α → Nat → m (Outcome β)) (acc : β) (index : Nat) : List α → m (Outcome β)
  | [] => pure (some acc)
  | item :: rest => do
    match ← f acc item index with
    | some next => thread f next (index + 1) rest
    | none => pure none

/-- The first success; no alternative after it is evaluated. -/
def firstSuccess (f : α → m (Outcome β)) : List α → m (Outcome β)
  | [] => pure none
  | item :: rest => do
    match ← f item with
    | some value => pure (some value)
    | none => firstSuccess f rest

end Outcome

end RuleMachine
