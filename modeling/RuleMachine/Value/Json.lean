import RuleMachine.Value.Basic

/-!
# Values and JSON

Undefined, host functions, and numbers that are not finite have no form in JSON and become null.
Integers of JSON are read as doubles. Reading JSON makes a new allocation for every array and every
object, numbered from a given number on.
-/

namespace RuleMachine

/-- A number of JSON: an integer of 64 bits, which is below zero if it has a sign, or a double that
is finite. -/
inductive JsonNumber where
  | unsigned (n : UInt64)
  | negative (n : Int64) (below : n < 0)
  | double (x : Float) (finite : x.isFinite)

namespace JsonNumber

/-- The number of a double, which only those that are finite have. -/
def ofFloat? (x : Float) : Option JsonNumber :=
  if finite : x.isFinite then some (.double x finite) else none

/-- The number as a double; an integer is rounded. -/
def toFloat : JsonNumber → Float
  | unsigned n => n.toFloat
  | negative n _ => .ofModel (.ofInt64 n)
  | double x _ => x

end JsonNumber

/-- A JSON value; the members of an object are in the order of their names. -/
inductive Json where
  | null
  | bool (value : Bool)
  | number (value : JsonNumber)
  | string (value : String)
  | array (items : List Json)
  | object (members : List (String × Json))

namespace Value

mutual

def toJson : Value → Json
  | undefined | null | callable _ => .null
  | bool b => .bool b
  | number n => (JsonNumber.ofFloat? n).elim .null .number
  | string s => .string s
  | list _ items => .array (itemsToJson items)
  | record _ fields => .object (fieldsToJson fields)

def itemsToJson : List Value → List Json
  | [] => []
  | v :: vs => toJson v :: itemsToJson vs

def fieldsToJson : List (String × Value) → List (String × Json)
  | [] => []
  | (key, v) :: fields => (key, toJson v) :: fieldsToJson fields

end

mutual

/-- The value of a JSON value, with the next free allocation number before and after. -/
def ofJson : Json → StateM Nat Value
  | .null => pure null
  | .bool b => pure (bool b)
  | .number n => pure (number n.toFloat)
  | .string s => pure (string s)
  | .array items => do
    let vs ← itemsOfJson items
    modifyGet fun next => (list next vs, next + 1)
  | .object members => do
    let fields ← fieldsOfJson members
    modifyGet fun next => (record next (Entries.ofPairs fields), next + 1)

def itemsOfJson : List Json → StateM Nat (List Value)
  | [] => pure []
  | j :: js => do
    let v ← ofJson j
    let vs ← itemsOfJson js
    pure (v :: vs)

def fieldsOfJson : List (String × Json) → StateM Nat (List (String × Value))
  | [] => pure []
  | (key, j) :: members => do
    let v ← ofJson j
    let fields ← fieldsOfJson members
    pure ((key, v) :: fields)

end

end Value

end RuleMachine
