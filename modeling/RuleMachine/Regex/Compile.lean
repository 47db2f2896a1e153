import RuleMachine.Regex.Basic
import RuleMachine.Regex.Engine
import RuleMachine.Regex.Reader

/-!
# The meaning of written patterns

Gives the pattern that a written pattern stands for. Flags hold from where they are set to the end
of the group they are set in. Where Unicode is switched off, sets are sets of bytes and must stay
within ASCII. The engine that comes of it is there to run machines with; what is proved of machines
holds with every engine.
-/

namespace RuleMachine.Regex

/-- The flags in force. -/
structure Flags where
  ignoreCase : Bool := false
  multiLine : Bool := false
  dotAll : Bool := false
  unicode : Bool := true
  returns : Bool := false

def Flags.set (f : Flags) : FlagSet → Flags
  | [] => f
  | (flag, value) :: rest =>
    let f := f.set rest
    match flag with
    | .ignoreCase => { f with ignoreCase := value }
    | .multiLine => { f with multiLine := value }
    | .dotAll => { f with dotAll := value }
    | .unicode => { f with unicode := value }
    | .returns => { f with returns := value }
    | .swapGreed | .verbose => f

/-- Names are compared without case, blanks, hyphens and underscores, and without `is` in front. -/
def normalizeName (name : List Char) : String :=
  let isLed : Bool := match name with
    | a :: b :: _ => a.toLower = 'i' && b.toLower = 's'
    | _ => false
  let rest := if isLed then name.drop 2 else name
  let kept := (rest.filter fun c => c.toNat < 128 && c ≠ ' ' && c ≠ '_' && c ≠ '-').map
    Char.toLower
  if isLed ∧ kept = ['c'] then "isc" else String.ofList kept

/-- The set that a query asks for. A bare name is the name of a property, of a general category or
of a script, in this order; three short names are kept for categories. -/
def Query.set? : Query → Option CharSet
  | named name =>
    let name := normalizeName name
    let property := if ["cf", "sc", "lc"].contains name then none else Text.property? name
    match property, Text.category? name, Text.scriptCode? name with
    | some s, _, _ => some (.codes s)
    | none, some s, _ => some (.codes s)
    | none, none, some code => some (.codes (Text.ofScript code))
    | none, none, none => none
  | valued property value =>
    let value := normalizeName value
    match normalizeName property with
    | "gc" | "generalcategory" => (Text.category? value).map .codes
    | "sc" | "script" => (Text.scriptCode? value).map fun code => .codes (Text.ofScript code)
    | "scx" | "scriptextensions" => (Text.scriptCode? value).map .usedIn
    | _ => none

/-- With all case variants, where the flags ask for them. -/
def Flags.fold (f : Flags) (a : CharSet) : CharSet :=
  if f.ignoreCase then if f.unicode then .anyCase a else .anyAsciiCase a else a

/-- The characters that are not in the set; without Unicode, the bytes that are not. -/
def Flags.negate (f : Flags) (negated : Bool) (a : CharSet) : CharSet :=
  if negated then
    if f.unicode then .compl a else .inter (.compl a) (.codes [⟨0, 255⟩])
  else a

/-- Without Unicode a set may hold no byte beyond ASCII. -/
def Flags.check (f : Flags) (a : CharSet) : Option CharSet :=
  if !f.unicode && a.hasHighByte then none else some a

def Flags.shorthand (f : Flags) (s : Shorthand) (negated : Bool) : Option CharSet :=
  let set := match s with
    | .digit => if f.unicode then CharSet.digit else CharSet.asciiDigit
    | .space => if f.unicode then CharSet.space else CharSet.asciiSpace
    | .word => if f.unicode then CharSet.word else CharSet.asciiWord
  f.check (f.negate negated set)

def Flags.property (f : Flags) (q : Query) (negated : Bool) : Option CharSet :=
  if f.unicode then q.set?.map fun a => f.negate negated (f.fold a) else none

/-- A letter inside of brackets; without Unicode it is a byte, and only escapes name high bytes. -/
def Flags.letter? (f : Flags) (l : Letter) : Option Char :=
  if f.unicode || l.isByte || l.char.toNat < 128 then some l.char else none

mutual

/-- The set that the inside of brackets stands for. -/
def ClassItem.set? (f : Flags) : ClassItem → Option CharSet
  | nothing => some .none
  | letter l => (f.letter? l).map .single
  | range first last => do
    let a ← f.letter? first
    let b ← f.letter? last
    some (.range a b)
  | ascii name negated =>
    match CharSet.ascii? name with
    | some a => f.check (f.negate negated (f.fold a))
    | none => none
  | shorthand s negated => f.shorthand s negated
  | property q negated => f.property q negated
  | bracket negated inside => do
    let a ← ClassItem.set? f inside
    f.check (f.negate negated (f.fold a))
  | union items => ClassItem.sets? f items
  | operation op l r => do
    let a ← ClassItem.set? f l
    let b ← ClassItem.set? f r
    some <| match op with
      | .inter => .inter (f.fold a) (f.fold b)
      | .diff => .diff (f.fold a) (f.fold b)
      | .symm => .symm (f.fold a) (f.fold b)

def ClassItem.sets? (f : Flags) : List ClassItem → Option CharSet
  | [] => some .none
  | item :: items => do
    let a ← ClassItem.set? f item
    let b ← ClassItem.sets? f items
    some (.union a b)

end

def Flags.anchor (f : Flags) : Anchor → Look
  | .lineStart =>
    if f.multiLine then if f.returns then .lineStartReturn else .lineStart else .textStart
  | .lineEnd =>
    if f.multiLine then if f.returns then .lineEndReturn else .lineEnd else .textEnd
  | .textStart => .textStart
  | .textEnd => .textEnd
  | .wordBoundary => .wordBoundary word
  | .notWordBoundary => .notWordBoundary word
  | .wordStart => .wordStart word
  | .wordEnd => .wordEnd word
  | .wordStartHalf => .wordStartHalf word
  | .wordEndHalf => .wordEndHalf word
where
  word : CharSet := if f.unicode then CharSet.word else CharSet.asciiWord

def Flags.primitive (f : Flags) : Primitive → Option Pattern
  | .letter l =>
    if !f.unicode && l.isByte && 128 ≤ l.char.toNat then none
    else some (.char (f.fold (.single l.char)))
  | .anchor a => some (.look (f.anchor a))
  | .shorthand s negated => (f.shorthand s negated).map .char
  | .property q negated => (f.property q negated).map .char

/-- Any character but a line break. -/
def Flags.dot (f : Flags) : Option Pattern :=
  if !f.unicode then none
  else if f.dotAll then some (.char .all)
  else if f.returns then some (.char (.compl (.ofChars ['\r', '\n'])))
  else some (.char (.compl (.single '\n')))

mutual

/-- The pattern of a term, with the flags in force after it. -/
def Term.meaning (f : Flags) : Term → Option (Pattern × Flags)
  | empty => some (.empty, f)
  | flags set => some (.empty, f.set set)
  | dot => f.dot.map (·, f)
  | primitive p => (f.primitive p).map (·, f)
  | bracket negated inside => do
    let a ← inside.set? f
    let a ← f.check (f.negate negated (f.fold a))
    some (.char a, f)
  | repetition t least most => do
    let (r, f) ← Term.meaning f t
    some (.repetition r least most, f)
  | group set t => do
    let (r, _) ← Term.meaning (f.set set) t
    some (r, f)
  | concat ts => Term.sequence f ts
  | alternation ts => Term.choice f ts

def Term.sequence (f : Flags) : List Term → Option (Pattern × Flags)
  | [] => some (.empty, f)
  | t :: ts => do
    let (r, f) ← Term.meaning f t
    let (s, f) ← Term.sequence f ts
    some (.seq r s, f)

def Term.choice (f : Flags) : List Term → Option (Pattern × Flags)
  | [] => some (.char .none, f)
  | t :: ts => do
    let (r, f) ← Term.meaning f t
    let (s, f) ← Term.choice f ts
    some (.alt r s, f)

end

/-- The memory that a pattern may need, in bytes. -/
def weightLimit : Nat := 10 * Nat.pow 2 20

/-- The pattern with a given text, if the text is a pattern. -/
def compile (text : String) : Option Pattern := do
  let t ← Reader.read? text
  let (r, _) ← t.meaning {}
  if r.weight ≤ weightLimit then some r else none

/-- An engine with which the machine can be run. -/
abbrev engine : Engine := ⟨Pattern, compile, Pattern.isMatch⟩

end RuleMachine.Regex
