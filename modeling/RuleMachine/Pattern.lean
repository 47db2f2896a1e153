import RuleMachine.Outcome
import RuleMachine.Scope

/-!
# Patterns

A pattern matches a value or does not, and binds names to parts of the value when it does.
-/

namespace RuleMachine

inductive Pattern where
  | wildcard
  /-- Matches a value that is the same as the one given. -/
  | literal (value : Value)
  | bind (name : String)
  /-- Matches a record with the tag `name` whose fields match. -/
  | tagged (name : String) (fields : List (String × Pattern))
  | object (fields : List (String × Pattern))
  | array (items : List Pattern)

namespace Pattern

/-- A field whose value is bound to the field's own name. -/
def shorthand (key : String) : String × Pattern := (key, bind key)

mutual

/-- The scope extended by what the pattern binds, or failure. -/
def run : Pattern → Value → Scope → Outcome Scope
  | wildcard, _, s => some s
  | literal expected, v, s => Outcome.when (Value.same expected v) s
  | bind name, v, s => some (s.bind name v)
  | tagged name fields, v, s => if v.tag? = some name then runFields fields v s else none
  | object fields, v, s => runFields fields v s
  | array items, v, s => runItems items v 0 s

/-- Matches fields in order, each in the scope that the ones before it leave. -/
def runFields : List (String × Pattern) → Value → Scope → Outcome Scope
  | [], _, s => some s
  | (key, p) :: fields, v, s =>
    match run p (v.field key) s with
    | some s => runFields fields v s
    | none => none

/-- Matches items in order, from the item `i` on; a missing item is undefined. -/
def runItems : List Pattern → Value → Nat → Scope → Outcome Scope
  | [], _, _, s => some s
  | p :: items, v, i, s =>
    match run p (v.item i) s with
    | some s => runItems items v (i + 1) s
    | none => none

end

/-- Fields thread the scope. -/
theorem runFields_eq_thread (fields : List (String × Pattern)) (v : Value) (s : Scope) (i : Nat) :
    runFields fields v s =
      Id.run (Outcome.thread (fun s (key, p) _ => pure (run p (v.field key) s)) s i fields) := by
  induction fields generalizing s i with
  | nil => rfl
  | cons f fields ih =>
    obtain ⟨key, p⟩ := f
    cases h : run p (v.field key) s with
    | none => simp [runFields, Outcome.thread, h]
    | some t => simp [runFields, Outcome.thread, h, ih t (i + 1)]

/-- Items thread the scope, and the index says which item of the value is due. -/
theorem runItems_eq_thread (items : List Pattern) (v : Value) (i : Nat) (s : Scope) :
    runItems items v i s =
      Id.run (Outcome.thread (fun s p i => pure (run p (v.item i) s)) s i items) := by
  induction items generalizing s i with
  | nil => rfl
  | cons p items ih =>
    cases h : run p (v.item i) s with
    | none => simp [runItems, Outcome.thread, h]
    | some t => simp [runItems, Outcome.thread, h, ih (i + 1) t]

/-- Whether the pattern matches a value in the empty scope. -/
def accepts (p : Pattern) (v : Value) : Bool := (p.run v .empty).isSome

/-- Whether one of the patterns accepts a value; no patterns at all accept every value. -/
def anyAccepts (ps : List Pattern) (v : Value) : Bool := ps.isEmpty || ps.any (·.accepts v)

end Pattern

end RuleMachine
