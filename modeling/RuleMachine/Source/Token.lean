import RuleMachine.Source.Position

/-!
# Tokens

A token is a classified span of the source. Its text is the span itself, so that the texts of all
tokens together give the source back; the token of an injected value has no text.
-/

namespace RuleMachine

/-- What a literal token stands for; injected values come from the host. -/
inductive Literal (α : Type) where
  | quoted (text : String)
  | number (value : Float)
  | injected (value : α)
  deriving DecidableEq

inductive TokenKind (α : Type) where
  /-- A line break with the blanks after it. -/
  | line
  /-- Blanks within a line, or the text of a comment. -/
  | ignored
  | literal (value : Literal α)
  | identifier
  /-- A comma, a semicolon or a bracket. -/
  | punctuation
  /-- A run of operator characters, as long as possible. -/
  | operator
  deriving DecidableEq

structure Token (α : Type) where
  kind : TokenKind α
  text : String
  position : Position
  deriving DecidableEq

namespace Token

variable {α : Type}

def isLine (t : Token α) : Bool :=
  match t.kind with
  | .line => true
  | _ => false

def isIgnored (t : Token α) : Bool :=
  match t.kind with
  | .ignored => true
  | _ => false

/-- Punctuation and operators are the tokens that brackets are made of. -/
def isSymbol (t : Token α) : Bool :=
  match t.kind with
  | .punctuation | .operator => true
  | _ => false

def literal? (t : Token α) : Option (Literal α) :=
  match t.kind with
  | .literal l => some l
  | _ => none

def identifier? (t : Token α) : Option String :=
  match t.kind with
  | .identifier => some t.text
  | _ => none

theorem not_isSymbol_of_isLine {t : Token α} (line : t.isLine) : t.isSymbol = false := by
  unfold isLine at line
  unfold isSymbol
  split at line <;> simp_all

/-- The place just past the token. -/
def stop (t : Token α) : Position := t.position.advance t.text.toList

end Token

end RuleMachine
