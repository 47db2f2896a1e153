/-!
# Positions in source text

A position counts the bytes before it, the line it is on and the characters before it on that
line. Passing a text is a fold over its characters (`advance_append`).
-/

namespace RuleMachine

/-- A place in the source: bytes from its start, and line and column counted from one. -/
structure Position where
  offset : Nat
  line : Nat
  column : Nat
  deriving DecidableEq, Repr

namespace Position

def start : Position := ⟨0, 1, 1⟩

instance : Inhabited Position := ⟨start⟩

/-- Passing a character: a line feed starts the next line. -/
def step (p : Position) (c : Char) : Position :=
  if c = '\n' then ⟨p.offset + c.utf8Size, p.line + 1, 1⟩
  else ⟨p.offset + c.utf8Size, p.line, p.column + 1⟩

/-- Passing a text. -/
def advance (p : Position) (text : List Char) : Position := text.foldl step p

@[simp] theorem advance_nil (p : Position) : p.advance [] = p := rfl

@[simp] theorem advance_cons (p : Position) (c : Char) (text : List Char) :
    p.advance (c :: text) = (p.step c).advance text := rfl

theorem advance_append (p : Position) (s t : List Char) :
    p.advance (s ++ t) = (p.advance s).advance t := by
  simp [advance]

/-- The place as messages name it: line and column. -/
def display (p : Position) : String := s!"{p.line}:{p.column}"

end Position

end RuleMachine
