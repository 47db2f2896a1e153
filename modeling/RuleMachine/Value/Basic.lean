import RuleMachine.Entries

/-!
# Values

States, events and bindings are values. Lists, records and host functions have an identity beside
their contents: a list or record carries the number of its allocation, a host function its own
number. A tagged record is a record whose field `type` holds the tag.
-/

namespace RuleMachine

/-- A function of the host, known by its number; the name is for messages. -/
structure HostFn where
  id : Nat
  name : String
  deriving DecidableEq, Repr

/-- A value; `allocation` is the number of the allocation that holds the contents of a list or a
record. -/
inductive Value where
  | undefined
  | null
  | bool (value : Bool)
  | number (value : Float)
  | string (value : String)
  | list (allocation : Nat) (items : List Value)
  | record (allocation : Nat) (fields : List (String × Value))
  | callable (function : HostFn)

namespace Value

instance : Inhabited Value := ⟨undefined⟩

/-- The field that holds the tag of a tagged record. -/
def tagField : String := "type"

/-- A field of a record; anything else reads as undefined. -/
def field (key : String) : Value → Value
  | record _ fields => (Entries.get? key fields).getD undefined
  | _ => undefined

/-- An item of a list; anything else reads as undefined. -/
def item (i : Nat) : Value → Value
  | list _ items => items[i]?.getD undefined
  | _ => undefined

/-- The tag of a tagged record. -/
def tag? : Value → Option String
  | record _ fields =>
    match Entries.get? tagField fields with
    | some (string tag) => some tag
    | _ => none
  | _ => none

/-- The fields of a tagged record: the tag first, so that a field of that name replaces it. -/
def taggedFields (name : String) (fields : List (String × Value)) : Entries Value :=
  Entries.ofPairs ((tagField, string name) :: fields)

/-- The name of the kind of value. -/
def kind : Value → String
  | undefined => "undefined"
  | null => "null"
  | bool _ => "boolean"
  | number _ => "number"
  | string _ => "string"
  | list .. => "list"
  | record .. => "record"
  | callable _ => "callable"

def isUndefined : Value → Bool
  | undefined => true
  | _ => false

def string? : Value → Option String
  | string s => some s
  | _ => none

def number? : Value → Option Float
  | number n => some n
  | _ => none

def bool? : Value → Option Bool
  | bool b => some b
  | _ => none

def items? : Value → Option (List Value)
  | list _ items => some items
  | _ => none

def fields? : Value → Option (Entries Value)
  | record _ fields => some fields
  | _ => none

def callable? : Value → Option HostFn
  | callable f => some f
  | _ => none

/-- Undefined, null, false, zero, no-number and the empty string do not count as true. -/
def isTruthy : Value → Bool
  | undefined | null => false
  | bool b => b
  | number n => n != 0 && n == n
  | string s => !s.isEmpty
  | list .. | record .. | callable _ => true

end Value

end RuleMachine
