import RuleMachine.Source.SyntaxError
import RuleMachine.Source.Token

/-!
# The bracket structure of a token sequence

Tokens form a tree: a group holds what stands between an opener and its closer. Which texts open
and close a group is given by pairs.
-/

namespace RuleMachine

/-- What the text of a symbol does to the nesting: an opener names its closer, a closer its
opener. -/
inductive Delimiter where
  | opens (close : String)
  | closes (opener : String)
  deriving DecidableEq

/-- The delimiters among the symbols, each text with its role. -/
abbrev Delimiters := List (String × Delimiter)

/-- Both roles of every pair. A later pair takes the texts of an earlier one over. -/
def Delimiters.ofPairs (pairs : List (String × String)) : Delimiters :=
  pairs.foldl
    (fun acc (opener, closer) =>
      (closer, .closes opener) :: (opener, .opens closer) :: acc) []

def Delimiters.role? (ds : Delimiters) {α : Type} (t : Token α) : Option Delimiter :=
  if t.isSymbol then ds.lookup t.text else none

/-- A token, or a group with its opener and its closer. -/
inductive Node (α : Type) where
  | token (t : Token α)
  | group (opener closer : Token α) (children : List (Node α))

/-- The tree of a token sequence and the place just past its last token. -/
structure Tree (α : Type) where
  nodes : List (Node α)
  stop : Position

namespace Node

variable {α : Type}

/-- The place of the first token of a node. -/
def position : Node α → Position
  | .token t => t.position
  | .group opener _ _ => opener.position

mutual

/-- The number of groups in a node. -/
def groups : Node α → Nat
  | .token _ => 0
  | .group _ _ children => groupsIn children + 1

/-- The number of groups in a list of nodes. -/
def groupsIn : List (Node α) → Nat
  | [] => 0
  | n :: ns => groups n + groupsIn ns

end

end Node

end RuleMachine
