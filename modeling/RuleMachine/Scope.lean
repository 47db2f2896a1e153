import RuleMachine.Value.Equality

/-!
# Scopes

A scope holds the bindings made so far while a rule is matched. Binding gives a new scope, so a
failed alternative leaves no trace in the scope it started from.
-/

namespace RuleMachine

structure Scope where
  bindings : Entries Value := []

namespace Scope

def empty : Scope := {}

def bind (s : Scope) (name : String) (value : Value) : Scope := ⟨s.bindings.insert name value⟩

/-- The value of a name; a name without a binding reads as undefined. -/
def get (s : Scope) (name : String) : Value := (s.bindings.get? name).getD .undefined

def contains (s : Scope) (name : String) : Bool := s.bindings.contains name

def size (s : Scope) : Nat := s.bindings.length

def ofPairs (pairs : List (String × Value)) : Scope := ⟨Entries.ofPairs pairs⟩

/-- The same names with values equal in structure. -/
def eq (s t : Scope) : Bool := Value.structuralFields s.bindings t.bindings

theorem get_bind_self (s : Scope) (name : String) (value : Value) :
    (s.bind name value).get name = value := by
  simp [bind, get, Entries.get?_insert_self]

theorem get_bind_of_ne (s : Scope) {name other : String} (h : other ≠ name) (value : Value) :
    (s.bind name value).get other = s.get other := by
  simp [bind, get, Entries.get?_insert_of_ne h]

end Scope

end RuleMachine
