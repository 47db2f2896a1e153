import RuleMachine.Value.Basic

/-!
# Phrases

A grammar is given by phrases: what a phrase describes, and the value that it stands for. Choice is
ordered, and a choice once made is kept.
-/

namespace RuleMachine

/-- What a single token, or a piece of one, can stand for. -/
inductive Terminal : Type → Type where
  /-- Characters at the front of a symbol. -/
  | symbol (text : String) : Terminal Unit
  /-- An identifier with exactly this text. -/
  | word (text : String) : Terminal Unit
  /-- Any identifier. -/
  | name : Terminal String
  /-- An identifier that is no keyword. -/
  | ident : Terminal String
  | quoted : Terminal String
  | number : Terminal Float
  | callable : Terminal HostFn
  /-- A literal that is no host function. -/
  | literal : Terminal Value

/-- The kinds of brackets. -/
inductive Bracket where
  | round
  | square
  | curly
  deriving DecidableEq

namespace Bracket

def opener : Bracket → String
  | round => "("
  | square => "["
  | curly => "\x7b"

def closer : Bracket → String
  | round => ")"
  | square => "]"
  | curly => "\x7d"

end Bracket

/-- Phrases over the productions `ν`; the index is the type of the value they stand for. -/
inductive Phrase (ν : Type → Type) : Type → Type 1 where
  | pure {α : Type} (a : α) : Phrase ν α
  | terminal {α : Type} (t : Terminal α) : Phrase ν α
  | production {α : Type} (n : ν α) : Phrase ν α
  /-- Nothing fits; `what` is what was expected. -/
  | fail {α : Type} (what : Option String) : Phrase ν α
  | seq {α β : Type} (p : Phrase ν (α → β)) (q : Phrase ν α) : Phrase ν β
  /-- First `p` and then `q` if `p` fits, else `r`. -/
  | choose {α β : Type} (p : Phrase ν α) (q : Phrase ν (α → β)) (r : Phrase ν β) : Phrase ν β
  /-- As many as fit. -/
  | many {α : Type} (p : Phrase ν α) : Phrase ν (List α)
  /-- Items up to the end, with commas between them and perhaps one after the last. -/
  | commaList {α : Type} (p : Phrase ν α) : Phrase ν (List α)
  /-- As many as fit on the line. -/
  | lineList {α : Type} (p : Phrase ν α) : Phrase ν (List α)
  /-- The whole inside of a group. -/
  | group {α : Type} (b : Bracket) (p : Phrase ν α) : Phrase ν α
  /-- A form that is known but has no meaning: if the keyword comes and `p` after it, the program
  is refused at the keyword, for the feature it asks for; without the keyword, `r`. -/
  | refuse {α : Type} (keyword feature : String) (p : Phrase ν Unit) (r : Phrase ν α) :
      Phrase ν α
  /-- The end; `what` is what was expected if there is more. -/
  | finish (what : String) : Phrase ν Unit

namespace Phrase

variable {ν : Type → Type} {α β : Type}

instance : Applicative (Phrase ν) where
  pure := .pure
  seq p q := .seq p (q ())

def symbol (text : String) : Phrase ν Unit := terminal (.symbol text)

def word (text : String) : Phrase ν Unit := terminal (.word text)

/-- The first alternative that fits. -/
def orElse (p q : Phrase ν α) : Phrase ν α := choose p (.pure id) q

/-- The first alternative that fits. -/
def oneOf : List (Phrase ν α) → Phrase ν α
  | [] => fail none
  | [p] => p
  | p :: ps => orElse p (oneOf ps)

def optional (p : Phrase ν α) : Phrase ν (Option α) := choose p (.pure some) (.pure none)

/-- One and as many more as fit, each after a symbol. -/
def separatedBy (symbol : String) (p : Phrase ν α) : Phrase ν (α × List α) :=
  Prod.mk <$> p <*> many (.symbol symbol *> p)

end Phrase

end RuleMachine
