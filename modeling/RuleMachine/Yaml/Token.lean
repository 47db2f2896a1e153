import RuleMachine.Yaml.Scalar

/-!
# Tokens of a YAML text

Indentation and line breaks are turned into tokens that open and close collections. A mapping may
show itself only at the colon after its first key, so the place of each possible key is kept as a
candidate, and the tokens that open the mapping and the key are put there later.
-/

namespace RuleMachine.Yaml

inductive Token where
  | version (major minor : Nat)
  | tagHandle (handle : String)
  | documentStart
  | documentEnd
  | blockSequence
  | blockMapping
  /-- The end of a collection that is shown by indentation. -/
  | dedent
  | openSequence
  | closeSequence
  | openMapping
  | closeMapping
  /-- The dash of a block sequence. -/
  | item
  | comma
  | key
  | value
  | alias (name : String)
  | anchor (name : String)
  | tag (handle : String)
  | scalar (text : String) (plain : Bool)
  deriving DecidableEq, Repr

/-- A place where a key may have begun: the number of tokens before it, and where it is in the
text. A required key must be followed by a colon. -/
structure Candidate where
  required : Bool
  tokens : Nat
  index : Nat
  line : Nat
  column : Nat

/-- The state between two tokens. The tokens found so far are in reverse; `indent` is the column of
the innermost block collection and `outer` those around it; `candidates` has one place for the
block level and one for each open bracket, the innermost first. -/
structure Layout where
  input : Input
  found : List Token := []
  indent : Int := -1
  outer : List Int := []
  keyAllowed : Bool := true
  candidates : List (Option Candidate) := [none]

namespace Layout

/-- Whether a bracket is open. -/
def inFlow (s : Layout) : Bool := 1 < s.candidates.length

def emit (s : Layout) (t : Token) : Layout := { s with found := t :: s.found }

/-- Adds a token after the first `n` ones. -/
def emitAt (s : Layout) (n : Nat) (t : Token) : Layout :=
  let later := s.found.length - n
  { s with found := s.found.take later ++ t :: s.found.drop later }

/-- Passes `n` characters that make a token. -/
def take (s : Layout) (n : Nat) (t : Token) : Layout :=
  { s.emit t with input := s.input.skip n }

/-- Gives the innermost candidate up. A required one may not be given up. -/
def dropCandidate? (s : Layout) : Option Layout :=
  match s.candidates with
  | some c :: rest => if c.required then none else some { s with candidates := none :: rest }
  | _ => some s

/-- Makes the place here the innermost candidate, if a key may begin here. -/
def saveCandidate? (s : Layout) : Option Layout :=
  if s.keyAllowed then do
    let s ← s.dropCandidate?
    let c : Candidate :=
      { required := !s.inFlow && s.indent = s.input.column, tokens := s.found.length,
        index := s.input.index, line := s.input.line, column := s.input.column }
    some { s with candidates := some c :: s.candidates.drop 1 }
  else some s

/-- A key stands on one line and has at most 1024 characters, so older candidates are dropped. -/
def expire? (s : Layout) : Option Layout := do
  let candidates ← s.candidates.mapM fun candidate =>
    match candidate with
    | some c =>
      if c.line < s.input.line ∨ c.index + 1024 < s.input.index then
        if c.required then none else some none
      else some (some c)
    | none => some none
  some { s with candidates }

/-- Opens a block collection at a column right of the innermost one, after the first `n` tokens. -/
def openBlock (s : Layout) (column n : Nat) (t : Token) : Layout :=
  if !s.inFlow && s.indent < column then
    { s.emitAt n t with indent := column, outer := s.indent :: s.outer }
  else s

/-- Closes the block collections right of a column. -/
def closeBlocks (s : Layout) (column : Int) : Layout :=
  if s.inFlow then s else go s.outer s.indent s
where
  go : List Int → Int → Layout → Layout
    | [], indent, s => { s with indent, outer := [] }
    | i :: rest, indent, s =>
      if column < indent then go rest i (s.emit .dedent) else { s with indent, outer := i :: rest }

/-- Passes blanks, comments and line breaks. Where a key may begin, a tab is no blank. -/
def skipGap : Nat → Layout → Layout
  | 0, s => s
  | fuel + 1, s =>
    let tabs := s.inFlow || !s.keyAllowed
    let i := (s.input.takeWhile fun c => c = ' ' || tabs && c = '\t').2.skipComment
    if i.breakAt then
      skipGap fuel { s with input := i.skipBreak.2, keyAllowed := s.keyAllowed || !s.inFlow }
    else { s with input := i }

/-- A name of word characters, and what follows it. -/
def name (i : Input) : String × Input :=
  let (cs, i) := i.takeWhile isWordCharacter
  (String.ofList cs, i)

/-- A part of a version number. -/
def number? (i : Input) : Option (Nat × Input) := do
  let (digits, i) := i.takeWhile Char.isDigit
  if 9 < digits.length then none else some (← Text.natural? 10 digits, i)

/-- The handle of a tag: an exclamation mark, and perhaps word characters and another one. -/
def handle? (i : Input) : Option (String × Input) :=
  if i.sees '!' then
    let (word, i) := name (i.skip 1)
    if i.sees '!' then some ("!" ++ word ++ "!", i.skip 1) else some ("!" ++ word, i)
  else none

/-- The characters of the address of a tag. -/
def isAddressCharacter (c : Char) : Bool :=
  isWordCharacter c || ";/?:@&=+$.!~*'()".toList.contains c

/-- The bytes of a character in UTF-8 that begins with a given byte. -/
def encodedLength? (byte : Nat) : Option Nat :=
  if byte < 0x80 then some 1
  else if byte / 0x20 = 6 then some 2
  else if byte / 0x10 = 14 then some 3
  else if byte / 8 = 30 then some 4
  else none

/-- Reads `n` escaped bytes that go on a character. -/
def continuation? : Nat → List Char → Option (List Char)
  | 0, cs => some cs
  | n + 1, '%' :: a :: b :: rest => do
    let byte ← Text.natural? 16 [a, b]
    if byte / 0x40 = 2 then continuation? n rest else none
  | _ + 1, _ => none

/-- Reads the characters of an address and gives their number; a percent sign escapes a byte. -/
def addressLength? (extra : List Char) : Nat → List Char → Option Nat
  | 0, _ => some 0
  | _ + 1, [] => some 0
  | fuel + 1, c :: rest =>
    if c = '%' then
      match rest with
      | a :: b :: rest => do
        let length ← encodedLength? (← Text.natural? 16 [a, b])
        let rest ← continuation? (length - 1) rest
        (addressLength? extra fuel rest).map (· + 3 * length)
      | _ => none
    else if isAddressCharacter c || extra.contains c then
      (addressLength? extra fuel rest).map (· + 1)
    else some 0

/-- The number of characters of the address here. -/
def address? (extra : List Char) (i : Input) : Option Nat :=
  addressLength? extra i.rest.length i.rest

/-- A tag, with the handle that it uses. -/
def tag? (s : Layout) : Option Layout := do
  let (handle, i) ←
    if s.input.rest[1]? = some '<' then do
      let i := s.input.skip 2
      let n ← address? [',', '[', ']'] i
      if n ≠ 0 ∧ (i.skip n).sees '>' then some ("", i.skip (n + 1)) else none
    else do
      let (handle, i) ← handle? s.input
      let n ← address? [] i
      if 1 < handle.length ∧ handle.endsWith "!" then
        if n = 0 then none else some (handle, i.skip n)
      else some (if handle = "!" ∧ n = 0 then "" else "!", i.skip n)
  if i.gapAt 0 || s.inFlow && i.sees ',' then
    some { s.emit (.tag handle) with input := i, keyAllowed := false }
  else none

/-- A line that begins with a percent sign. -/
def directive? (s : Layout) : Option Layout := do
  let s ← (s.closeBlocks (-1)).dropCandidate?
  let (word, i) := name (s.input.skip 1)
  if !i.gapAt 0 then none
  let (token, i) ←
    if word = "YAML" then do
      let (major, i) ← number? i.skipBlanks
      if !i.sees '.' then none
      let (minor, i) ← number? (i.skip 1)
      some (.version major minor, i)
    else if word = "TAG" then do
      let (handle, i) ← handle? i.skipBlanks
      if !i.blankAt || !(handle.endsWith "!") then none
      let i := i.skipBlanks
      let n ← address? [',', '[', ']'] i
      if n = 0 || !(i.skip n).gapAt 0 then none
      some (.tagHandle handle, i.skip n)
    else none
  some { s.emit token with input := ← i.endLine?, keyAllowed := false }

/-- An anchor or an alias. -/
def anchor? (s : Layout) (make : String → Token) : Option Layout :=
  let (word, i) := name (s.input.skip 1)
  if word ≠ "" && (i.gapAt 0 || i.next?.any fun c => "?:,]\x7d%@`".toList.contains c) then
    some { s.emit (make word) with input := i, keyAllowed := false }
  else none

/-- A dash that makes an item of a block sequence. -/
def item? (s : Layout) : Option Layout := do
  if !s.inFlow && !s.keyAllowed then none
  let s ← (s.openBlock s.input.column s.found.length .blockSequence).dropCandidate?
  some ({ s with keyAllowed := true }.take 1 .item)

/-- A question mark that makes a key. -/
def key? (s : Layout) : Option Layout := do
  if !s.inFlow && !s.keyAllowed then none
  let s ← (s.openBlock s.input.column s.found.length .blockMapping).dropCandidate?
  some ({ s with keyAllowed := !s.inFlow }.take 1 .key)

/-- A colon that makes a value: of the candidate, if there is one, else of a key before it. -/
def value? (s : Layout) : Option Layout :=
  match s.candidates with
  | some c :: rest =>
    let s := (s.emitAt c.tokens .key).openBlock c.column c.tokens .blockMapping
    some ({ s with candidates := none :: rest, keyAllowed := false }.take 1 .value)
  | _ =>
    if !s.inFlow && !s.keyAllowed then none
    else
      let s := s.openBlock s.input.column s.found.length .blockMapping
      some ({ s with keyAllowed := !s.inFlow }.take 1 .value)

/-- A bracket that opens. -/
def opening? (s : Layout) (t : Token) : Option Layout := do
  let s ← s.saveCandidate?
  some ({ s with candidates := none :: s.candidates, keyAllowed := true }.take 1 t)

/-- A bracket that closes. -/
def closing? (s : Layout) (t : Token) : Option Layout := do
  let s ← s.dropCandidate?
  let candidates := if s.inFlow then s.candidates.drop 1 else s.candidates
  some ({ s with candidates, keyAllowed := false }.take 1 t)

/-- A scalar, read by `read`; `keyAllowed` says whether a key may follow it. -/
def scalar (s : Layout) (text : List Char) (plain keyAllowed : Bool) (i : Input) : Layout :=
  { s.emit (.scalar (String.ofList text) plain) with input := i, keyAllowed }

def quotedScalar? (s : Layout) (quote : Char) : Option Layout := do
  let s ← s.saveCandidate?
  let (text, i) ← quoted? quote s.input
  some (s.scalar text false false i)

def blockScalar? (s : Layout) (literal : Bool) : Option Layout := do
  let s ← s.dropCandidate?
  let (text, i) ← block? literal s.indent s.input
  some (s.scalar text false true i)

def plainScalar? (s : Layout) : Option Layout := do
  let s ← s.saveCandidate?
  let (text, broken, i) ← plain? s.inFlow (s.indent + 1).toNat s.input
  some (s.scalar text true broken i)

/-- Whether a character can begin a plain scalar: no indicator can, but three of them do in front
of other text. -/
def beginsPlain (s : Layout) (c : Char) : Bool :=
  !isBlank c && !"-?:,[]\x7b\x7d#&*!|>'\"%@`".toList.contains c ||
    c = '-' && !(s.input.rest[1]?.any isBlank) ||
    !s.inFlow && (c = '?' || c = ':') && !s.input.gapAt 1

/-- Reads the next token, whose first character is `c`. -/
def token? (s : Layout) (c : Char) : Option Layout :=
  if s.input.column = 0 ∧ c = '%' then s.directive?
  else if s.input.boundary then do
    let s ← (s.closeBlocks (-1)).dropCandidate?
    some ({ s with keyAllowed := false }.take 3
      (if c = '-' then .documentStart else .documentEnd))
  else if c = '[' then s.opening? .openSequence
  else if c = '\x7b' then s.opening? .openMapping
  else if c = ']' then s.closing? .closeSequence
  else if c = '\x7d' then s.closing? .closeMapping
  else if c = ',' then do
    let s ← s.dropCandidate?
    some ({ s with keyAllowed := true }.take 1 .comma)
  else if c = '-' ∧ s.input.gapAt 1 then s.item?
  else if c = '?' ∧ (s.inFlow || s.input.gapAt 1) then s.key?
  else if c = ':' ∧ (s.inFlow || s.input.gapAt 1) then s.value?
  else if c = '*' then do (← s.saveCandidate?).anchor? .alias
  else if c = '&' then do (← s.saveCandidate?).anchor? .anchor
  else if c = '!' then do (← s.saveCandidate?).tag?
  else if c = '|' ∧ !s.inFlow then s.blockScalar? true
  else if c = '>' ∧ !s.inFlow then s.blockScalar? false
  else if c = '\'' ∨ c = '"' then s.quotedScalar? c
  else if s.beginsPlain c then s.plainScalar?
  else none

/-- Reads tokens up to the end of the text, at most `fuel` of them. -/
def run? : Nat → Layout → Option Layout
  | 0, _ => none
  | fuel + 1, s => do
    let s ← (s.skipGap s.input.rest.length.succ).expire?
    match s.input.rest with
    | [] => (s.closeBlocks (-1)).dropCandidate?
    | c :: _ => run? fuel (← (s.closeBlocks s.input.column).token? c)

end Layout

/-- The tokens of a text; every token takes a character. -/
def tokens? (text : List Char) : Option (List Token) := do
  let s ← Layout.run? (text.length + 1) { input := { rest := text } }
  some s.found.reverse

end RuleMachine.Yaml
