import RuleMachine.Decimal.Nearest
import RuleMachine.Source.SyntaxError
import RuleMachine.Source.Token
import RuleMachine.Text.Blank
import RuleMachine.Text.Digit
import RuleMachine.Text.Identifier

/-!
# The lexer

The lexer turns source text into tokens. It is in one of three modes, and each mode has a list of
rules; a rule says how many characters at the front of the text it takes, and the first rule that
takes any makes the next token. So a token is a part of the text cut off at the front
(`scanWith`), and nothing is lost.

The source of a program comes in segments with host values between them. The mode outlives a
segment; a value that stands inside a comment is dropped.
-/

namespace RuleMachine

inductive Mode where
  | main
  | lineComment
  | blockComment
  deriving DecidableEq, Repr

/-- What a rule makes of the characters it takes. -/
inductive Shape where
  | line
  | ignored
  | quoted
  | radix (base : Nat)
  | decimal
  | identifier
  | punctuation
  | operator
  deriving DecidableEq

/-- A rule; `extent` is the number of characters taken at the front of a text, zero where the rule
does not apply. -/
structure LexRule where
  shape : Shape
  extent : List Char → Nat
  next : Option Mode := none

namespace Lexeme

/-- The number of characters at the front that satisfy `p`. -/
def run (p : Char → Bool) : List Char → Nat
  | [] => 0
  | c :: rest => if p c then run p rest + 1 else 0

/-- A fixed text. -/
def exact : List Char → List Char → Nat
  | pattern, text => if pattern.isPrefixOf text then pattern.length else 0

/-- A line feed, or a carriage return and a line feed, with all blanks after it. -/
def lineBreak : List Char → Nat
  | '\n' :: rest => run Text.isBlank rest + 1
  | '\r' :: '\n' :: rest => run Text.isBlank rest + 2
  | _ => 0

def isSpace (c : Char) : Bool := c = ' ' || c = '\t' || c = '\r'

/-- The rest of a string literal after its opening quote, with the closing quote. A backslash
stands before a quote of the literal's kind or a backslash only, and the literal ends on its
line. -/
def quotedBody (quote : Char) : List Char → Option Nat
  | [] => none
  | '\\' :: c :: rest =>
    if c = quote ∨ c = '\\' then (quotedBody quote rest).map (· + 2) else none
  | c :: rest =>
    if c = quote then some 1
    else if c = '\n' ∨ c = '\\' then none
    else (quotedBody quote rest).map (· + 1)

def quotedLiteral (quote : Char) : List Char → Nat
  | c :: rest => if c = quote then ((quotedBody quote rest).map (· + 1)).getD 0 else 0
  | [] => 0

def isDigitOrGap (c : Char) : Bool := c.isDigit || c = '_'

/-- A zero, the letter of a base, and one or more of its digits and of underscores. -/
def radixNumeral (letter : Char) (base : Nat) : List Char → Nat
  | '0' :: c :: rest =>
    let digits := run (fun d => (Text.digit? base d).isSome || d = '_') rest
    if c = letter ∧ digits ≠ 0 then digits + 2 else 0
  | _ => 0

/-- A point with the digits and underscores after it. -/
def fraction : List Char → Nat
  | '.' :: rest => run isDigitOrGap rest + 1
  | _ => 0

/-- The letter `e`, an optional sign, and one or more digits and underscores. -/
def exponent : List Char → Nat
  | e :: rest =>
    if e = 'e' ∨ e = 'E' then
      let sign := match rest with
        | c :: _ => if c = '+' ∨ c = '-' then 1 else 0
        | [] => 0
      let digits := run isDigitOrGap (rest.drop sign)
      if digits = 0 then 0 else 1 + sign + digits
    else 0
  | [] => 0

/-- A numeral without its sign. -/
def unsignedNumeral : List Char → Nat
  | c :: rest =>
    if c.isDigit then
      let whole := run isDigitOrGap rest
      let afterWhole := rest.drop whole
      let part := fraction afterWhole
      1 + whole + part + exponent (afterWhole.drop part)
    else 0
  | [] => 0

/-- A numeral in base ten; a minus sign directly before it belongs to it. -/
def decimalNumeral : List Char → Nat
  | '-' :: rest => if unsignedNumeral rest = 0 then 0 else unsignedNumeral rest + 1
  | text => unsignedNumeral text

def identifier : List Char → Nat
  | c :: rest =>
    if c = '$' || c = '_' || Text.isIdentifierStart c then
      run (fun d => d = '$' || Text.isIdentifierContinue d) rest + 1
    else 0
  | [] => 0

def isPunctuation (c : Char) : Bool := [',', ';', '(', ')', '{', '}', '[', ']'].contains c

def isOperator (c : Char) : Bool := "!@#%^&*-+=|/:<>.?~".toList.contains c

def punctuation : List Char → Nat
  | c :: _ => if isPunctuation c then 1 else 0
  | [] => 0

/-- A line feed with all blanks after it. -/
def lineFeed : List Char → Nat
  | '\n' :: rest => run Text.isBlank rest + 1
  | _ => 0

/-- One or more stars and a slash. -/
def commentEnd (text : List Char) : Nat :=
  let stars := run (· = '*') text
  match text.drop stars with
  | '/' :: _ => if stars = 0 then 0 else stars + 1
  | _ => 0

/-- Comment text up to the stars that end the comment or the segment. `stars` counts the stars
passed that may turn out to belong to the end. -/
def commentText (stars : Nat) : List Char → Nat
  | [] => 0
  | c :: rest =>
    if c = '*' then commentText (stars + 1) rest
    else if c = '/' ∧ stars ≠ 0 then 0
    else stars + 1 + commentText 0 rest

/-- Stars at the end of a segment. -/
def trailingStars (text : List Char) : Nat :=
  if text.all (· = '*') then text.length else 0

end Lexeme

/-- The rules of a mode, in the order in which they are tried. -/
def Mode.rules : Mode → List LexRule
  | .main =>
    [ { shape := .line, extent := Lexeme.lineBreak },
      { shape := .ignored, extent := Lexeme.run Lexeme.isSpace },
      { shape := .ignored, extent := Lexeme.exact ['/', '/'], next := some .lineComment },
      { shape := .ignored, extent := Lexeme.exact ['/', '*'], next := some .blockComment },
      { shape := .quoted, extent := Lexeme.quotedLiteral '"' },
      { shape := .quoted, extent := Lexeme.quotedLiteral '\'' },
      { shape := .radix 16, extent := Lexeme.radixNumeral 'x' 16 },
      { shape := .radix 8, extent := Lexeme.radixNumeral 'o' 8 },
      { shape := .radix 2, extent := Lexeme.radixNumeral 'b' 2 },
      { shape := .decimal, extent := Lexeme.decimalNumeral },
      { shape := .identifier, extent := Lexeme.identifier },
      { shape := .punctuation, extent := Lexeme.punctuation },
      { shape := .operator, extent := Lexeme.run Lexeme.isOperator } ]
  | .lineComment =>
    [ { shape := .ignored, extent := Lexeme.run (· ≠ '\n') },
      { shape := .line, extent := Lexeme.lineFeed, next := some .main } ]
  | .blockComment =>
    [ { shape := .ignored, extent := Lexeme.commentEnd, next := some .main },
      { shape := .ignored, extent := Lexeme.commentText 0 },
      { shape := .ignored, extent := Lexeme.trailingStars } ]

namespace Lexeme

/-- Removes each backslash that stands before another character. -/
def unescape : List Char → List Char
  | '\\' :: c :: rest => c :: unescape rest
  | '\\' :: [] => []
  | c :: rest => c :: unescape rest
  | [] => []

/-- The text between the quotes of a string literal, its escapes resolved. -/
def unquote (text : List Char) : String := String.ofList (unescape text.tail.dropLast)

/-- The number of a literal with a base. Digits are gathered in floating point, so that wide
literals approximate; without any digit there is no number. -/
def radixValue (base : Nat) (text : List Char) : Float :=
  match (text.drop 2).filter (· ≠ '_') with
  | [] => Decimal.notANumber
  | digits => digits.foldl (fun acc c =>
      acc * base.toFloat + ((Text.digit? base c).elim Decimal.notANumber Nat.toFloat)) 0

/-- The number of a decimal literal, underscores left out. -/
def decimalValue (text : List Char) : Float :=
  (Decimal.read? (text.filter (· ≠ '_'))).getD Decimal.notANumber

end Lexeme

/-- The kind of token that a lexeme of a given shape makes. -/
def Shape.kind {α : Type} (text : List Char) : Shape → TokenKind α
  | .line => .line
  | .ignored => .ignored
  | .quoted => .literal (.quoted (Lexeme.unquote text))
  | .radix base => .literal (.number (Lexeme.radixValue base text))
  | .decimal => .literal (.number (Lexeme.decimalValue text))
  | .identifier => .identifier
  | .punctuation => .punctuation
  | .operator => .operator

/-- The first rule that takes any of the text, with the number of characters it takes. -/
def firstMatch (text : List Char) : List LexRule → Option (LexRule × Nat)
  | [] => none
  | rule :: rest =>
    if rule.extent text = 0 then firstMatch text rest else some (rule, rule.extent text)

/-- The state of the lexer between two tokens. `commentStart` is where the last block comment
began. -/
structure Lexer where
  mode : Mode := .main
  position : Position := .start
  commentStart : Option Position := none
  deriving DecidableEq

/-- What scanning a segment gives: the tokens, the state after the last of them, and the error that
stopped it, if one did. -/
structure Scanned (α : Type) where
  tokens : List (Token α)
  lexer : Lexer
  failure : Option SyntaxError

namespace Lexer

variable {α : Type}

/-- The state after a token made by `rule`. -/
def after (l : Lexer) (rule : LexRule) (text : List Char) : Lexer where
  mode := rule.next.getD l.mode
  position := l.position.advance text
  commentStart := if rule.next = some .blockComment then some l.position else l.commentStart

/-- Scans a text, at most `fuel` tokens of it. -/
def scanWith : Nat → Lexer → List Char → Scanned α
  | _, l, [] => ⟨[], l, none⟩
  | 0, l, _ => ⟨[], l, none⟩
  | fuel + 1, l, c :: rest =>
    match firstMatch (c :: rest) l.mode.rules with
    | none => ⟨[], l, some (.unexpectedCharacter c l.position)⟩
    | some (rule, n) =>
      let text := (c :: rest).take n
      let scanned := scanWith fuel (l.after rule text) ((c :: rest).drop n)
      { scanned with
        tokens := ⟨rule.shape.kind text, String.ofList text, l.position⟩ :: scanned.tokens }

/-- Scans a segment. Each token takes a character, so there is fuel for all of them. -/
def scan (l : Lexer) (segment : List Char) : Scanned α := scanWith segment.length l segment

/-- The token of a value injected here, or none inside a comment. -/
def inject (l : Lexer) (value : α) : Option (Token α) :=
  if l.mode = .main then some ⟨.literal (.injected value), "", l.position⟩ else none

/-- The source may end anywhere but in a block comment. -/
def finish (l : Lexer) : Option SyntaxError :=
  if l.mode = .blockComment then some (.unterminatedComment (l.commentStart.getD l.position))
  else none

/-- Scans segments in order with the values between them, one after each segment but the last. -/
def scanSegments (l : Lexer) : List String → List α → Except SyntaxError (List (Token α))
  | [], _ =>
    match l.finish with
    | some e => .error e
    | none => .ok []
  | segment :: segments, values =>
    let scanned := l.scan segment.toList
    match scanned.failure with
    | some e => .error e
    | none =>
      let injected := if segments.isEmpty then [] else
        (values.head?.bind scanned.lexer.inject).toList
      (scanSegments scanned.lexer segments (if segments.isEmpty then values else values.tail)).map
        fun tokens => scanned.tokens ++ injected ++ tokens

end Lexer

/-- The tokens of a source given as segments with values between them. -/
def tokenize {α : Type} (segments : List String) (values : List α) :
    Except SyntaxError (List (Token α)) :=
  ({} : Lexer).scanSegments segments values

end RuleMachine
