import RuleMachine.Yaml.Input

/-!
# Scalars of a YAML text

A scalar is written plain, in quotes, or as a block of lines. Line breaks within plain and quoted
scalars are folded: a single one counts as a space, of more the first is dropped.
-/

namespace RuleMachine.Yaml

/-! ## Gaps -/

/-- What separates the words of a scalar: blanks, or line breaks with the first one apart. -/
structure Gap where
  blanks : List Char := []
  first : Option (List Char) := none
  more : List Char := []

namespace Gap

/-- Whether the gap goes over a line break. -/
def breaks (g : Gap) : Bool := g.first.isSome

/-- The text that a gap stands for. -/
def text (g : Gap) : List Char :=
  match g.first with
  | none => g.blanks
  | some ['\n'] => if g.more.isEmpty then [' '] else g.more
  | some first => first ++ g.more

/-- Reads a gap, of `fuel` characters at most. After a line break no tab may stand before the
column `indent`. -/
def read? (indent : Nat) : Nat → Gap → Input → Option (Gap × Input)
  | 0, g, i => some (g, i)
  | fuel + 1, g, i =>
    match i.next? with
    | none => some (g, i)
    | some c =>
      if isBlank c then
        if g.breaks then
          if c = '\t' ∧ i.column < indent then none else read? indent fuel g (i.skip 1)
        else read? indent fuel { g with blanks := g.blanks ++ [c] } (i.skip 1)
      else if isBreak c then
        let (text, i) := i.skipBreak
        if g.breaks then read? indent fuel { g with more := g.more ++ text } i
        else read? indent fuel { g with first := some text } i
      else some (g, i)

end Gap

/-! ## Plain scalars -/

/-- The characters that separate the members of a collection in brackets. -/
def isFlowIndicator (c : Char) : Bool := [',', '[', ']', '\x7b', '\x7d'].contains c

/-- Whether a colon at the front of a text stands before a gap. -/
def endsKey : List Char → Bool
  | ':' :: [] => true
  | ':' :: c :: _ => isBlank c || isBreak c
  | _ => false

/-- A word of a plain scalar, with the number of its characters. In brackets a colon before a
bracket, a comma or a question mark is an error. -/
def plainWord? (flow : Bool) : List Char → Option (List Char)
  | [] => some []
  | c :: rest =>
    if isBlank c || isBreak c || endsKey (c :: rest) then some []
    else if flow && c = ':' && rest.head?.any (fun d => isFlowIndicator d || d = '?') then none
    else if flow && isFlowIndicator c then some []
    else (plainWord? flow rest).map (c :: ·)

/-- Reads words of a plain scalar and the gaps between them, `fuel` words at most. `pending` is the
gap before the next word. The answer holds the text, and whether the scalar ended after a line
break. -/
def plainWords? (flow : Bool) (indent : Nat) :
    Nat → List Char → Gap → Input → Option (List Char × Bool × Input)
  | 0, text, pending, i => some (text, pending.breaks, i)
  | fuel + 1, text, pending, i =>
    if i.boundary || i.sees '#' then some (text, pending.breaks, i)
    else do
      let word ← plainWord? flow i.rest
      let i := i.skip word.length
      let (text, ended) := if word.isEmpty then (text, pending.breaks)
        else (text ++ pending.text ++ word, false)
      if i.gapAt 0 && !i.rest.isEmpty then
        let (gap, i) ← Gap.read? indent i.rest.length {} i
        if !flow && i.column < indent then some (text, gap.breaks, i)
        else plainWords? flow indent fuel text gap i
      else some (text, ended, i)

/-- A plain scalar; within a block it ends where the lines go back to a column before `indent`. -/
def plain? (flow : Bool) (indent : Nat) (i : Input) : Option (List Char × Bool × Input) :=
  plainWords? flow indent (i.rest.length + 1) [] {} i

/-! ## Quoted scalars -/

/-- What the letter of an escape stands for. -/
def escapes : List (Char × Char) :=
  [('0', '\x00'), ('a', '\x07'), ('b', '\x08'), ('t', '\t'), ('\t', '\t'), ('n', '\n'),
    ('v', '\x0b'), ('f', '\x0c'), ('i', '\r'), ('e', '\x1b'), (' ', ' '), ('"', '"'), ('/', '/'),
    ('\\', '\\'), ('N', '\u0085'), ('_', '\u00a0'), ('L', '\u2028'), ('P', '\u2029')]

/-- The character of an escape and the length of the escape, its backslash left out. -/
def escape? : List Char → Option (Char × Nat)
  | [] => none
  | c :: rest =>
    match escapes.lookup c with
    | some d => some (d, 1)
    | none => do
      let length ← [('x', 2), ('u', 4), ('U', 8)].lookup c
      let digits := rest.take length
      if digits.length < length then none
      else some (← Text.hexChar? digits, length + 1)

/-- Reads quoted words and gaps up to the closing quote, in `fuel` steps at most. -/
def quotedText? (quote : Char) : Nat → List Char → Input → Option (List Char × Input)
  | 0, _, _ => none
  | fuel + 1, text, i =>
    if i.boundary then none
    else match i.rest with
      | [] => none
      | c :: rest =>
        if c = quote then
          if quote = '\'' ∧ rest.head? = some quote then
            quotedText? quote fuel (text ++ [quote]) (i.skip 2)
          else some (text, i.skip 1)
        else if quote = '"' ∧ c = '\\' then
          if rest.head?.any isBreak then do
            let (gap, i) ← Gap.read? 0 i.rest.length { first := some [] } (i.skip 1).skipBreak.2
            quotedText? quote fuel (text ++ gap.text) i
          else do
            let (d, length) ← escape? rest
            quotedText? quote fuel (text ++ [d]) (i.skip (length + 1))
        else if isBlank c || isBreak c then do
          let (gap, i) ← Gap.read? 0 i.rest.length {} i
          quotedText? quote fuel (text ++ gap.text) i
        else quotedText? quote fuel (text ++ [c]) (i.skip 1)

/-- A quoted scalar, with the quote in front. -/
def quoted? (quote : Char) (i : Input) : Option (List Char × Input) :=
  quotedText? quote (i.rest.length + 1) [] (i.skip 1)

/-! ## Blocks of lines -/

/-- How the line breaks at the end of a block are treated. -/
inductive Chomping where
  | strip
  | clip
  | keep
  deriving DecidableEq

def chomping? (i : Input) : Option Chomping :=
  match i.next? with
  | some '+' => some .keep
  | some '-' => some .strip
  | _ => none

def increment? (i : Input) : Option Nat :=
  i.next?.bind fun c => if c.isDigit then some (c.toNat - '0'.toNat) else none

/-- The header of a block after its indicator: the chomping and the extra indentation, in any
order. -/
def header (i : Input) : Chomping × Option Nat × Input :=
  match chomping? i with
  | some chomping =>
    match increment? (i.skip 1) with
    | some n => (chomping, some n, i.skip 2)
    | none => (chomping, none, i.skip 1)
  | none =>
    match increment? i with
    | some n =>
      match chomping? (i.skip 1) with
      | some chomping => (chomping, some n, i.skip 2)
      | none => (.clip, some n, i.skip 1)
    | none => (.clip, none, i)

/-- Passes empty lines and the indentation of the next line, in `fuel` steps at most. Without a
fixed indentation the spaces are all passed; `widest` is the largest column seen. -/
def blockBreaks? (indent : Option Nat) :
    Nat → Nat → List Char → Input → Option (Nat × List Char × Input)
  | 0, widest, text, i => some (widest, text, i)
  | fuel + 1, widest, text, i =>
    let inside : Input → Bool := fun i => indent.all (i.column < ·)
    let spaces := i.rest.takeWhile (· = ' ')
    let i := i.skip (match indent with
      | none => spaces.length
      | some n => min spaces.length (n - i.column))
    let widest := max widest i.column
    if inside i && i.sees '\t' then none
    else if i.breakAt then
      let (line, i) := i.skipBreak
      blockBreaks? indent fuel widest (text ++ line) i
    else some (widest, text, i)

/-- Reads the lines of a block that are indented by `indent`, `fuel` of them at most. `last` is the
break of the last line, `empty` what follows it, and `blank` says whether the last line starts with
a blank. -/
def blockLines? (literal : Bool) (indent : Nat) :
    Nat → List Char → List Char → List Char → Bool → Input →
      Option (List Char × List Char × List Char × Input)
  | 0, text, last, empty, _, i => some (text, last, empty, i)
  | fuel + 1, text, last, empty, blank, i =>
    if i.column = indent ∧ !i.rest.isEmpty then do
      let folded := !literal && last = ['\n'] && !blank && !i.blankAt
      let joint := if folded then (if empty.isEmpty then [' '] else []) else last
      let (line, i') := i.takeWhile (!isBreak ·)
      let (last, after) := if i'.rest.isEmpty then ([], i') else i'.skipBreak
      let (_, empty', after) ← blockBreaks? (some indent) (after.rest.length + 1) 0 [] after
      blockLines? literal indent fuel (text ++ joint ++ empty ++ line) last empty' i.blankAt after
    else some (text, last, empty, i)

/-- A block, with its indicator in front, in a collection whose members are indented by `outer`. -/
def block? (literal : Bool) (outer : Int) (i : Input) : Option (List Char × Input) := do
  let (chomping, increment, i) := header (i.skip 1)
  if increment = some 0 then none
  else
    let i ← i.endLine?
    let fixed := increment.map fun n => (if 0 ≤ outer then outer else 0).toNat + n
    let (widest, empty, i) ← blockBreaks? fixed (i.rest.length + 1) 0 [] i
    let indent := fixed.getD (max widest (max (outer + 1).toNat 1))
    let (text, last, empty, i) ← blockLines? literal indent (i.rest.length + 1) [] [] empty false i
    let text := match chomping with
      | .strip => text
      | .clip => text ++ last
      | .keep => text ++ last ++ empty
    some (text, i)

end RuleMachine.Yaml
