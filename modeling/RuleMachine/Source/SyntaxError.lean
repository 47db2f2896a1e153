import RuleMachine.Source.Position
import RuleMachine.Text.Escaped

/-!
# Errors of scanning and of bracket matching
-/

namespace RuleMachine

/-- Why source text has no tokens, or its tokens no bracket structure. -/
inductive SyntaxError where
  | unexpectedCharacter (c : Char) (place : Position)
  /-- The source ends inside the block comment that starts at `place`. -/
  | unterminatedComment (place : Position)
  /-- A closer stands where nothing is open. -/
  | unmatchedClose (text : String) (place : Position)
  /-- A closer stands where another one is due. -/
  | mismatchedClose (expected found : String) (place : Position)
  /-- The innermost opener that is open at the end of the source. -/
  | unclosed (text : String) (place : Position)
  deriving DecidableEq

namespace SyntaxError

def place : SyntaxError → Position
  | unexpectedCharacter _ p | unterminatedComment p | unmatchedClose _ p
  | mismatchedClose _ _ p | unclosed _ p => p

/-- A stable name for the kind of error. -/
def code : SyntaxError → String
  | unexpectedCharacter .. => "UNEXPECTED_CHARACTER"
  | unterminatedComment .. => "UNTERMINATED_COMMENT"
  | unmatchedClose .. => "UNMATCHED_CLOSE"
  | mismatchedClose .. => "MISMATCHED_CLOSE"
  | unclosed .. => "UNCLOSED_STRUCTURE"

def message : SyntaxError → String
  | unexpectedCharacter c p => s!"unexpected character {Text.showChar c} at {p.display}"
  | unterminatedComment p => s!"unterminated block comment starting at {p.display}"
  | unmatchedClose text p => s!"unmatched '{text}' at {p.display}"
  | mismatchedClose expected found p =>
    s!"expected '{expected}' at {p.display}, found '{found}'"
  | unclosed text p => s!"'{text}' opened at {p.display} is never closed"

end SyntaxError

end RuleMachine
