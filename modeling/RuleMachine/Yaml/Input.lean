import RuleMachine.Text.Digit

/-!
# The characters of a YAML text

What is left of a text is kept together with the characters and lines passed. The character
classes are those of the format; a line ends with a line feed, a carriage return, both, or one of
the line breaks of Unicode.
-/

namespace RuleMachine.Yaml

/-- Spaces and tabs. -/
def isBlank (c : Char) : Bool := c = ' ' || c = '\t'

def isBreak (c : Char) : Bool :=
  c = '\n' || c = '\r' || c = '\u0085' || c = '\u2028' || c = '\u2029'

/-- The characters of anchors and of the handles of tags. -/
def isWordCharacter (c : Char) : Bool :=
  c.isAlphanum || c = '_' || c = '-'

/-- The characters that a text may hold: no control characters but tabs and line breaks. -/
def isAllowed (c : Char) : Bool :=
  isBreak c || c = '\t' || ' ' ≤ c && c ≤ '~' || '\u00a0' ≤ c && c ≤ '\ud7ff' ||
    '\ue000' ≤ c && c ≤ '\ufffd' || '\uffff' < c

/-- The byte order mark. -/
def mark : Char := '\ufeff'

/-- A place in a text, with the line and column counted from zero. -/
structure Input where
  rest : List Char
  index : Nat := 0
  line : Nat := 0
  column : Nat := 0

namespace Input

def next? (i : Input) : Option Char := i.rest.head?

/-- Whether the next character is `c`. -/
def sees (i : Input) (c : Char) : Bool := i.next? = some c

/-- Whether the `n`-th character from here is blank, a line break or missing. -/
def gapAt (i : Input) (n : Nat) : Bool :=
  match i.rest[n]? with
  | none => true
  | some c => isBlank c || isBreak c

def blankAt (i : Input) : Bool := i.next?.any isBlank

def breakAt (i : Input) : Bool := i.next?.any isBreak

/-- Passes `n` characters of the line. -/
def skip (i : Input) (n : Nat) : Input :=
  { i with rest := i.rest.drop n, index := i.index + n, column := i.column + n }

/-- Passes a line break. Its text is a line feed, unless it is a separator of its own kind. -/
def skipBreak (i : Input) : List Char × Input :=
  let length := match i.rest with
    | '\r' :: '\n' :: _ => 2
    | _ => 1
  let text := match i.next? with
    | some '\u2028' => ['\u2028']
    | some '\u2029' => ['\u2029']
    | _ => ['\n']
  (text, { rest := i.rest.drop length, index := i.index + length, line := i.line + 1 })

/-- Passes the characters of the line that satisfy `p`, and gives them. -/
def takeWhile (p : Char → Bool) (i : Input) : List Char × Input :=
  let taken := i.rest.takeWhile p
  (taken, i.skip taken.length)

def skipBlanks (i : Input) : Input := (i.takeWhile isBlank).2

/-- Passes a comment, if there is one. -/
def skipComment (i : Input) : Input :=
  if i.sees '#' then (i.takeWhile (!isBreak ·)).2 else i

/-- Passes the rest of a line that holds nothing but blanks and a comment. -/
def endLine? (i : Input) : Option Input :=
  let i := i.skipBlanks.skipComment
  if i.breakAt then some i.skipBreak.2
  else if i.rest.isEmpty then some i
  else none

/-- Whether a mark of three characters stands alone at the start of a line. -/
def markAt (i : Input) (c : Char) : Bool :=
  i.column = 0 && [c, c, c].isPrefixOf i.rest && i.gapAt 3

/-- Whether a document starts or ends here. -/
def boundary (i : Input) : Bool := i.markAt '-' || i.markAt '.'

end Input

end RuleMachine.Yaml
