/-!
# Written patterns

A pattern as it is written: flags and escapes are kept as terms of their own, and nothing is
resolved yet.
-/

namespace RuleMachine.Regex

inductive Flag where
  | ignoreCase
  | multiLine
  | dotAll
  | swapGreed
  | unicode
  | returns
  | verbose
  deriving DecidableEq

def Flag.ofChar? : Char → Option Flag
  | 'i' => some ignoreCase
  | 'm' => some multiLine
  | 's' => some dotAll
  | 'U' => some swapGreed
  | 'u' => some unicode
  | 'R' => some returns
  | 'x' => some verbose
  | _ => none

/-- Flags with the values they are set to. -/
abbrev FlagSet := List (Flag × Bool)

/-- A character; `isByte` marks one written as two hexadecimal digits, which stands for a byte
where Unicode is switched off. -/
structure Letter where
  char : Char
  isByte : Bool := false
  deriving DecidableEq

inductive Anchor where
  | lineStart
  | lineEnd
  | textStart
  | textEnd
  | wordBoundary
  | notWordBoundary
  | wordStart
  | wordEnd
  | wordStartHalf
  | wordEndHalf
  deriving DecidableEq

inductive Shorthand where
  | digit
  | space
  | word
  deriving DecidableEq

/-- A character property, by its name or by the name of a property and of its value. -/
inductive Query where
  | named (name : List Char)
  | valued (property value : List Char)
  deriving DecidableEq

inductive SetOperator where
  | inter
  | diff
  | symm
  deriving DecidableEq

/-- What may stand for one character outside and inside of brackets. -/
inductive Primitive where
  | letter (l : Letter)
  | anchor (a : Anchor)
  | shorthand (s : Shorthand) (negated : Bool)
  | property (q : Query) (negated : Bool)
  deriving DecidableEq

/-- The inside of brackets. -/
inductive ClassItem where
  | nothing
  | letter (l : Letter)
  | range (first last : Letter)
  | ascii (name : String) (negated : Bool)
  | shorthand (s : Shorthand) (negated : Bool)
  | property (q : Query) (negated : Bool)
  | bracket (negated : Bool) (inside : ClassItem)
  | union (items : List ClassItem)
  | operation (op : SetOperator) (l r : ClassItem)

inductive Term where
  | empty
  | flags (set : FlagSet)
  | dot
  | primitive (p : Primitive)
  | bracket (negated : Bool) (inside : ClassItem)
  | repetition (t : Term) (least : Nat) (most : Option Nat)
  | group (flags : FlagSet) (t : Term)
  | concat (ts : List Term)
  | alternation (ts : List Term)

/-- The same inside of brackets, where no place can be named. -/
def Primitive.classItem? : Primitive → Option ClassItem
  | .letter l => some (.letter l)
  | .shorthand s negated => some (.shorthand s negated)
  | .property q negated => some (.property q negated)
  | .anchor _ => none

namespace ClassItem

def ofItems : List ClassItem → ClassItem
  | [] => nothing
  | [item] => item
  | items => union items

mutual

/-- How deep brackets, unions and operations are nested. -/
def depth : ClassItem → Nat
  | bracket _ inside => depth inside + 1
  | union items => depths items + 1
  | operation _ l r => max (depth l) (depth r) + 1
  | nothing | letter _ | range .. | ascii .. | shorthand .. | property .. => 0

def depths : List ClassItem → Nat
  | [] => 0
  | item :: items => max (depth item) (depths items)

end

end ClassItem

namespace Term

def ofTerms : List Term → Term
  | [] => empty
  | [t] => t
  | ts => concat ts

def ofBranches : List Term → Term
  | [t] => t
  | ts => alternation ts

/-- Repetition needs something to repeat. -/
def isRepeatable : Term → Bool
  | empty | flags _ => false
  | _ => true

mutual

/-- How deep brackets, repetitions, groups and lists of terms are nested. -/
def depth : Term → Nat
  | empty | flags _ | dot | primitive _ => 0
  | bracket _ inside => inside.depth + 1
  | repetition t _ _ => depth t + 1
  | group _ t => depth t + 1
  | concat ts => depths ts + 1
  | alternation ts => depths ts + 1

def depths : List Term → Nat
  | [] => 0
  | t :: ts => max (depth t) (depths ts)

end

end Term

end RuleMachine.Regex
