import RuleMachine.Regex.Term
import RuleMachine.Text.Blank
import RuleMachine.Text.Category
import RuleMachine.Text.Digit
import RuleMachine.Text.Property

/-!
# Reading patterns

Reads the text of a pattern, or finds that it is none. Blanks and comments count for nothing where
the verbose flag is set; the argument `v` of each function is that flag. Every function takes the
text that is left and gives the text that it leaves.
-/

namespace RuleMachine.Regex.Reader

open RuleMachine (Text.isBlank)

/-- Leaves blanks and comments out, in verbose patterns only. -/
def skip (v : Bool) (cs : List Char) : List Char :=
  if v then go false cs else cs
where
  go : Bool → List Char → List Char
    | _, [] => []
    | true, c :: rest => go (c ≠ '\n') rest
    | false, c :: rest =>
      if Text.isBlank c then go false rest else if c = '#' then go true rest else c :: rest

/-- The characters up to the first that does not satisfy `p`, blanks between them left out. -/
def gather (v : Bool) (p : Char → Bool) : Nat → List Char → List Char × List Char
  | 0, cs => ([], cs)
  | _, [] => ([], [])
  | fuel + 1, c :: rest =>
    if p c then
      let (taken, left) := gather v p fuel (skip v rest)
      (c :: taken, left)
    else ([], c :: rest)

/-- A decimal number of 32 bits, with blanks around it in any case. -/
def count (v : Bool) (cs : List Char) : Option (Nat × List Char) :=
  let (digits, rest) := gather v Char.isDigit cs.length (cs.dropWhile Text.isBlank)
  let n := digits.foldl (fun n c => 10 * n + (c.toNat - '0'.toNat)) 0
  if digits.isEmpty ∨ UInt32.size ≤ n then none
  else some (n, skip v (rest.dropWhile Text.isBlank))

/-- Exactly `n` characters, blanks between and after them left out. -/
def take (v : Bool) : Nat → List Char → Option (List Char × List Char)
  | 0, cs => some ([], cs)
  | _ + 1, [] => none
  | n + 1, c :: rest => do
    let (taken, left) ← take v n (skip v rest)
    some (c :: taken, left)

/-- A character by its code point, after the letter `kind`: in braces, or with as many digits as
the letter calls for. -/
def hexLetter (v : Bool) (kind : Char) (cs : List Char) : Option (Primitive × List Char) :=
  match skip v cs with
  | '{' :: rest => do
    let rest := skip v rest
    let (digits, left) := gather v (· ≠ '}') rest.length rest
    match left with
    | '}' :: left =>
      let c ← Text.hexChar? digits
      some (.letter ⟨c, false⟩, skip v left)
    | _ => none
  | rest => do
    let (digits, left) ← take v (if kind = 'x' then 2 else if kind = 'u' then 4 else 8) rest
    let c ← Text.hexChar? digits
    some (.letter ⟨c, kind = 'x'⟩, left)

/-- Cuts a text at the first place where `pattern` stands. -/
def cutAt (pattern : List Char) (before : List Char) :
    List Char → Option (List Char × List Char)
  | [] => none
  | c :: rest =>
    if pattern.isPrefixOf (c :: rest) then
      some (before.reverse, (c :: rest).drop pattern.length)
    else cutAt pattern (c :: before) rest

/-- The query written between braces. An equals sign or a colon separates a property from its
value. -/
def query (name : List Char) : Query :=
  match cutAt ['!', '='] [] name, cutAt [':'] [] name, cutAt ['='] [] name with
  | some (property, value), _, _ => .valued property value
  | none, some (property, value), _ => .valued property value
  | none, none, some (property, value) => .valued property value
  | none, none, none => .named name

def property (v negated : Bool) (cs : List Char) : Option (Primitive × List Char) :=
  match skip v cs with
  | [] => none
  | '{' :: rest =>
    let rest := skip v rest
    match gather v (· ≠ '}') rest.length rest with
    | (name, '}' :: left) => some (.property (query name) negated, left)
    | _ => none
  | c :: rest =>
    if c = '\\' then none else some (.property (.named [c]) negated, skip v rest)

def isMeta (c : Char) : Bool :=
  ['\\', '.', '+', '*', '?', '(', ')', '|', '[', ']', '{', '}', '^', '$', '#', '&', '-',
    '~'].contains c

/-- Characters that stand for themselves after a backslash. -/
def isEscapable (c : Char) : Bool :=
  isMeta c || (c.toNat < 128 && !c.isAlphanum && c ≠ '<' && c ≠ '>')

/-- The rest of a boundary after its letter: a name in braces may make it special. -/
def boundary (v : Bool) (cs : List Char) : Option (Primitive × List Char) :=
  let isNameChar := fun c : Char => c.isAlpha || c = '-'
  match cs with
  | '{' :: rest =>
    match skip v rest with
    | [] => none
    | c :: more =>
      if isNameChar c then
        match gather v isNameChar (more.length + 1) (c :: more) with
        | (name, '}' :: left) =>
          match String.ofList name with
          | "start" => some (.anchor .wordStart, left)
          | "end" => some (.anchor .wordEnd, left)
          | "start-half" => some (.anchor .wordStartHalf, left)
          | "end-half" => some (.anchor .wordEndHalf, left)
          | _ => none
        | _ => none
      else some (.anchor .wordBoundary, cs)
  | _ => some (.anchor .wordBoundary, cs)

/-- What a backslash begins. -/
def escape (v : Bool) : List Char → Option (Primitive × List Char)
  | [] => none
  | c :: rest =>
    let letter := fun d : Char => some (Primitive.letter ⟨d, false⟩, rest)
    match c with
    | 'x' | 'u' | 'U' => hexLetter v c rest
    | 'p' => property v false rest
    | 'P' => property v true rest
    | 'd' => some (.shorthand .digit false, rest)
    | 'D' => some (.shorthand .digit true, rest)
    | 's' => some (.shorthand .space false, rest)
    | 'S' => some (.shorthand .space true, rest)
    | 'w' => some (.shorthand .word false, rest)
    | 'W' => some (.shorthand .word true, rest)
    | 'a' => letter '\x07'
    | 'f' => letter '\x0c'
    | 't' => letter '\t'
    | 'n' => letter '\n'
    | 'r' => letter '\r'
    | 'v' => letter '\x0b'
    | 'A' => some (.anchor .textStart, rest)
    | 'z' => some (.anchor .textEnd, rest)
    | 'b' => boundary v rest
    | 'B' => some (.anchor .notWordBoundary, rest)
    | '<' => some (.anchor .wordStart, rest)
    | '>' => some (.anchor .wordEnd, rest)
    | c => if isEscapable c then letter c else none

/-! ## Brackets -/

/-- A set named within ASCII, after its opening bracket. -/
def asciiClass : List Char → Option (ClassItem × List Char)
  | ':' :: rest =>
    let (negated, rest) := match rest with
      | '^' :: rest => (true, rest)
      | rest => (false, rest)
    let name := String.ofList (rest.takeWhile (· ≠ ':'))
    match rest.dropWhile (· ≠ ':') with
    | ':' :: ']' :: left =>
      if ["alnum", "alpha", "ascii", "blank", "cntrl", "digit", "graph", "lower", "print", "punct",
        "space", "upper", "word", "xdigit"].contains name
      then some (.ascii name negated, left) else none
    | _ => none
  | _ => none

/-- One character or escape inside of brackets. -/
def classPrimitive (v : Bool) : List Char → Option (Primitive × List Char)
  | [] => none
  | '\\' :: rest => escape v rest
  | c :: rest => some (.letter ⟨c, false⟩, rest)

/-- The character after a hyphen, blanks left out; what follows a comment sign counts even though
it is a comment. -/
def peek (v : Bool) (cs : List Char) : Option Char :=
  if v then
    match cs.dropWhile Text.isBlank with
    | '#' :: rest => (rest.dropWhile Text.isBlank).head?
    | rest => rest.head?
  else cs.head?

/-- An item of a set, or a range of two characters with a hyphen between them. -/
def classRange (v : Bool) (cs : List Char) : Option (ClassItem × List Char) := do
  let (first, rest) ← classPrimitive v cs
  match skip v rest with
  | [] => none
  | '-' :: more =>
    if peek v more = some ']' ∨ peek v more = some '-' then
      some (← first.classItem?, '-' :: more)
    else
      let (last, left) ← classPrimitive v (skip v more)
      match first, last with
      | .letter a, .letter b => if a.char ≤ b.char then some (.range a b, left) else none
      | _, _ => none
  | rest => some (← first.classItem?, rest)

/-- What is read of a set so far: an operation that waits for its right side, and the items
since. -/
structure ClassState where
  pending : Option (SetOperator × ClassItem) := none
  items : List ClassItem := []

def ClassState.close (s : ClassState) : ClassItem :=
  let item := ClassItem.ofItems s.items.reverse
  match s.pending with
  | none => item
  | some (op, l) => .operation op l item

def ClassState.add (s : ClassState) (item : ClassItem) : ClassState :=
  { s with items := item :: s.items }

def ClassState.operate (s : ClassState) (op : SetOperator) : ClassState := ⟨some (op, s.close), []⟩

/-- The hyphens at the start of a set stand for themselves. -/
def leadingHyphens (v : Bool) : Nat → ClassState → List Char → Option (ClassState × List Char)
  | fuel + 1, s, '-' :: rest =>
    match skip v rest with
    | [] => none
    | rest => leadingHyphens v fuel (s.add (.letter ⟨'-', false⟩)) rest
  | _, s, cs => some (s, cs)

/-- The start of a set after its bracket: negation, hyphens, and a closing bracket that stands for
itself if it comes first. -/
def openBracket (v : Bool) (cs : List Char) : Option (Bool × ClassState × List Char) := do
  let cs := skip v cs
  let (negated, cs) := match cs with
    | '^' :: rest => (true, skip v rest)
    | cs => (false, cs)
  if cs.isEmpty then none
  let (s, cs) ← leadingHyphens v cs.length {} cs
  match s.items, cs with
  | [], ']' :: rest =>
    let rest := skip v rest
    if rest.isEmpty then none else some (negated, s.add (.letter ⟨']', false⟩), rest)
  | _, cs => some (negated, s, cs)

/-- The inside of a set up to its closing bracket. -/
def classItems (v : Bool) : Nat → ClassState → List Char → Option (ClassItem × List Char)
  | 0, _, _ => none
  | fuel + 1, s, cs =>
    match skip v cs with
    | [] => none
    | '[' :: rest =>
      match asciiClass rest with
      | some (item, left) => classItems v fuel (s.add item) left
      | none =>
        match openBracket v rest with
        | none => none
        | some (negated, inner, rest) =>
          match classItems v fuel inner rest with
          | none => none
          | some (item, left) => classItems v fuel (s.add (.bracket negated item)) left
    | ']' :: rest => some (s.close, rest)
    | '&' :: '&' :: rest => classItems v fuel (s.operate .inter) rest
    | '-' :: '-' :: rest => classItems v fuel (s.operate .diff) rest
    | '~' :: '~' :: rest => classItems v fuel (s.operate .symm) rest
    | cs =>
      match classRange v cs with
      | none => none
      | some (item, left) => classItems v fuel (s.add item) left

/-! ## Groups -/

/-- The flags up to a colon or a closing parenthesis, with that character. -/
def flagItems (negated dangling : Bool) (acc : FlagSet) :
    List Char → Option (FlagSet × Char × List Char)
  | [] => none
  | c :: rest =>
    if c = ':' ∨ c = ')' then if dangling then none else some (acc, c, rest)
    else if c = '-' then if negated then none else flagItems true true acc rest
    else
      match Flag.ofChar? c with
      | none => none
      | some f =>
        if acc.any (·.1 = f) then none else flagItems negated false ((f, !negated) :: acc) rest

/-- What an opening parenthesis begins. -/
inductive Opening where
  | setFlags (set : FlagSet)
  | group (set : FlagSet)
  | named (name : List Char)

def isNameStart (c : Char) : Bool := c = '_' || ((Text.property? "alphabetic").getD []).contains c

def isNameChar (c : Char) : Bool :=
  isNameStart c || c = '.' || c = '[' || c = ']' || ((Text.category? "n").getD []).contains c

/-- The name of a group up to its closing angle bracket. -/
def groupName (cs : List Char) : Option (Opening × List Char) :=
  let name := cs.takeWhile (· ≠ '>')
  match name, cs.dropWhile (· ≠ '>') with
  | c :: more, '>' :: rest =>
    if isNameStart c && more.all isNameChar then some (.named name, rest) else none
  | _, _ => none

def opening (v : Bool) (cs : List Char) : Option (Opening × List Char) :=
  match skip v cs with
  | '?' :: 'P' :: '<' :: rest => groupName rest
  | '?' :: '<' :: rest => groupName rest
  | '?' :: rest => do
    let (set, stop, left) ← flagItems false false [] rest
    if stop = ')' then if set.isEmpty then none else some (.setFlags set, left)
    else some (.group set, left)
  | rest => some (.group [], rest)

def verboseAfter (v : Bool) (set : FlagSet) : Bool := (set.lookup .verbose).getD v

/-- A question mark directly after an operator makes it prefer the shorter match, which makes no
difference to whether there is one. -/
def skipLazy : List Char → List Char
  | '?' :: rest => rest
  | rest => rest

/-- The bounds of a counted repetition after its brace. -/
def bounds (v : Bool) (cs : List Char) : Option (Nat × Option Nat × List Char) := do
  let (least, rest) ← count v (skip v cs)
  match rest with
  | '}' :: rest => some (least, some least, skipLazy (skip v rest))
  | ',' :: rest =>
    match skip v rest with
    | '}' :: rest => some (least, none, skipLazy (skip v rest))
    | rest =>
      let (most, rest) ← count v rest
      match rest with
      | '}' :: rest =>
        if least ≤ most then some (least, some most, skipLazy (skip v rest)) else none
      | _ => none
  | _ => none

/-- What is read of a group so far: its finished branches and the terms of the current one. -/
structure GroupState where
  branches : List Term := []
  terms : List Term := []

def GroupState.close (s : GroupState) : Term :=
  Term.ofBranches (Term.ofTerms s.terms.reverse :: s.branches).reverse

def GroupState.add (s : GroupState) (t : Term) : GroupState := { s with terms := t :: s.terms }

/-- Puts a repetition on the last term. -/
def GroupState.repeatLast (s : GroupState) (least : Nat) (most : Option Nat) :
    Option GroupState :=
  match s.terms with
  | t :: rest => if t.isRepeatable then some { s with terms := .repetition t least most :: rest }
    else none
  | [] => none

/-- The inside of a group up to its closing parenthesis or the end of the pattern. `names` are the
names of groups so far. -/
def groupItems : Nat → Bool → List (List Char) → GroupState → List Char →
    Option (Term × List (List Char) × List Char)
  | 0, _, _, _, _ => none
  | fuel + 1, v, names, s, cs =>
    let group := fun (names : List (List Char)) (set : FlagSet) (rest : List Char) =>
      match groupItems fuel (verboseAfter v set) names {} rest with
      | some (t, names, ')' :: left) => groupItems fuel v names (s.add (.group set t)) left
      | _ => none
    let onward := fun (read : Option (Term × List Char)) =>
      match read with
      | some (t, left) => groupItems fuel v names (s.add t) left
      | none => none
    let repeated := fun (least : Nat) (most : Option Nat) (left : List Char) =>
      match s.repeatLast least most with
      | some s => groupItems fuel v names s left
      | none => none
    match skip v cs with
    | [] => some (s.close, names, [])
    | ')' :: rest => some (s.close, names, ')' :: rest)
    | '|' :: rest =>
      groupItems fuel v names ⟨Term.ofTerms s.terms.reverse :: s.branches, []⟩ rest
    | '(' :: rest =>
      match opening v rest with
      | none => none
      | some (.setFlags set, left) =>
        groupItems fuel (verboseAfter v set) names (s.add (.flags set)) left
      | some (.group set, left) => group names set left
      | some (.named name, left) =>
        if names.contains name then none else group (name :: names) [] left
    | '[' :: rest =>
      onward <| match openBracket v rest with
        | none => none
        | some (negated, inner, rest) =>
          (classItems v (rest.length + 1) inner rest).map fun (item, left) =>
            (.bracket negated item, left)
    | '?' :: rest => repeated 0 (some 1) (skipLazy rest)
    | '*' :: rest => repeated 0 none (skipLazy rest)
    | '+' :: rest => repeated 1 none (skipLazy rest)
    | '{' :: rest =>
      match bounds v rest with
      | none => none
      | some (least, most, left) => repeated least most left
    | '.' :: rest => onward (some (.dot, rest))
    | '^' :: rest => onward (some (.primitive (.anchor .lineStart), rest))
    | '$' :: rest => onward (some (.primitive (.anchor .lineEnd), rest))
    | '\\' :: rest => onward ((escape v rest).map fun (p, left) => (.primitive p, left))
    | c :: rest => onward (some (.primitive (.letter ⟨c, false⟩), rest))

/-- How deep the terms of a pattern may be nested. -/
def depthLimit : Nat := 250

/-- The term that a pattern is written as. Each step of reading takes a character. -/
def read? (text : String) : Option Term :=
  match groupItems (text.length + 1) false [] {} text.toList with
  | some (t, _, []) => if t.depth ≤ depthLimit then some t else none
  | _ => none

end RuleMachine.Regex.Reader
