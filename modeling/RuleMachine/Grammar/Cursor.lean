import RuleMachine.Source.Tree
import RuleMachine.Value.Display

/-!
# Cursors

A cursor is a place in the nodes of one group, or of the whole source. A symbol token may be read
in pieces, so a cursor may stand inside the token at its front.
-/

namespace RuleMachine

/-- The nodes that are left, the number of characters already read of the symbol in front, and the
place where the nodes end. -/
structure Cursor where
  nodes : List (Node Value)
  split : Nat := 0
  stop : Position

def Node.isLine {α : Type} : Node α → Bool
  | .token t => t.isLine
  | .group .. => false

namespace Cursor

/-- Passes line breaks, unless the cursor stands inside a token. -/
def skipLines (c : Cursor) : Cursor :=
  if c.split = 0 then { c with nodes := c.nodes.dropWhile (·.isLine) } else c

/-- The token in front. -/
def token? (c : Cursor) : Option (Token Value) :=
  match c.nodes with
  | .token t :: _ => some t
  | _ => none

/-- Whether a line break or the end comes next. -/
def atLineOrEnd (c : Cursor) : Bool :=
  c.split = 0 && match c.nodes with
    | [] => true
    | n :: _ => n.isLine

/-- Passes the node in front. -/
def next (c : Cursor) : Cursor := { c with nodes := c.nodes.tail, split := 0 }

def position (c : Cursor) : Position :=
  match c.nodes with
  | [] => c.stop
  | .token t :: _ =>
    { t.position with
      offset := t.position.offset + c.split
      column := t.position.column + c.split }
  | .group opener _ _ :: _ => opener.position

/-- What is left of the text of the token in front. -/
def rest (c : Cursor) (t : Token Value) : List Char := t.text.toList.drop c.split

/-- What comes next, as messages name it. -/
def describe (c : Cursor) : String :=
  match c.nodes with
  | [] => "end of input"
  | .group opener _ _ :: _ => s!"'{opener.text}'"
  | .token t :: _ =>
    match t.kind with
    | .line => "line break"
    | .literal (.quoted s) => s!"string {Text.showString s}"
    | .literal (.number n) => s!"number {Decimal.display n}"
    | .literal (.injected v) => s!"injected {v.kind}"
    | .ignored | .identifier | .punctuation | .operator =>
      "'" ++ String.ofList (c.rest t) ++ "'"

/-- An upper bound of the number of steps that can be taken over a node. -/
def Node.steps : Node Value → Nat
  | .token t => t.text.length + 1
  | .group .. => 1

/-- More than the number of steps that can be taken from the cursor. -/
def steps (c : Cursor) : Nat := c.nodes.foldr (fun n total => Node.steps n + total) 0 - c.split + 1

/-- Whether two cursors of the same nodes stand at the same place. -/
def sameAs (c d : Cursor) : Bool := c.nodes.length = d.nodes.length && c.split = d.split

end Cursor

end RuleMachine
