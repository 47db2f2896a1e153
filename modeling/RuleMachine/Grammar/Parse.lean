import RuleMachine.Grammar.Cursor
import RuleMachine.Grammar.Phrase

/-!
# Reading phrases

Reads a phrase from the nodes at a cursor. Alternatives are tried in order, and a failed one leaves
the cursor where it was; what it asked for in vain is noted. What is kept of the notes does not
matter to reading: for messages it is the furthest place that any alternative reached.
-/

namespace RuleMachine

/-- Words that name nothing: they are part of the grammar. -/
def keywords : List String :=
  ["states", "actions", "start", "extends", "if", "after", "enter", "exit", "dispatch", "await",
    "exec", "in", "not", "is", "true", "false", "null", "undefined"]

/-- Why nodes are no program. -/
inductive ParseError where
  | expected (expected : List String) (found : String) (place : Position)
  | unsupported (feature : String) (place : Position)
  deriving DecidableEq

namespace ParseError

def place : ParseError → Position
  | expected _ _ p | unsupported _ p => p

def code : ParseError → String
  | expected .. => "PARSE_ERROR"
  | unsupported .. => "UNSUPPORTED"

def message : ParseError → String
  | expected es found p =>
    "parse error at " ++ p.display ++ ": expected " ++ " or ".intercalate es ++ ", found " ++ found
  | unsupported feature p => "unsupported at " ++ p.display ++ ": " ++ feature

end ParseError

/-- What notes are made on. -/
class Notepad (ρ : Type) where
  /-- Notes that `what` was asked for in vain at a cursor. -/
  note : ρ → Cursor → String → ρ

/-- The furthest place at which something was asked for in vain, what was, and what is there. -/
structure Furthest where
  place : Option Position := none
  expected : List String := []
  found : String := ""
  deriving DecidableEq

namespace Furthest

/-- Notes that `what` was asked for in vain at a cursor. -/
def note (f : Furthest) (c : Cursor) (what : String) : Furthest :=
  match f.place with
  | none => ⟨some c.position, [what], c.describe⟩
  | some p =>
    if c.position.offset < p.offset then f
    else if p.offset = c.position.offset then
      if f.expected.contains what then f else { f with expected := f.expected ++ [what] }
    else ⟨some c.position, [what], c.describe⟩

def error (f : Furthest) : ParseError := .expected f.expected f.found (f.place.getD .start)

instance : Notepad Furthest := ⟨note⟩

end Furthest

/-- The outcome of reading a phrase; `f` is what was noted. -/
inductive Reply (ρ α : Type) where
  | ok (a : α) (c : Cursor) (f : ρ)
  /-- The phrase does not fit here. -/
  | mismatch (f : ρ)
  /-- Reading ends altogether. -/
  | fatal (e : ParseError)
  /-- The fuel for nested productions is used up. -/
  | exhausted

/-- A way of reading from a cursor. -/
abbrev Parse (ρ α : Type) := Cursor → ρ → Reply ρ α

namespace Parse

variable {ρ α β : Type} [Notepad ρ]

/-- Fails here for want of `what`. -/
def want (what : String) : Parse ρ α := fun c f => .mismatch (Notepad.note f c what)

/-- Reads `p`, then goes on with its value. -/
def andThen (p : Parse ρ α) (q : α → Parse ρ β) : Parse ρ β := fun c f =>
  match p c f with
  | .ok a c f => q a c f
  | .mismatch f => .mismatch f
  | .fatal e => .fatal e
  | .exhausted => .exhausted

/-- Reads `p` and then goes on with `q`, or with `r` from the same place if `p` does not fit. -/
def either (p : Parse ρ α) (q : α → Parse ρ β) (r : Parse ρ β) : Parse ρ β := fun c f =>
  match p c f with
  | .ok a c f => q a c f
  | .mismatch f => r c f
  | .fatal e => .fatal e
  | .exhausted => .exhausted

/-- The value of a terminal and the cursor after it. -/
def terminal? (c : Cursor) : {α : Type} → Terminal α → Option (α × Cursor)
  | _, .symbol text => do
    let t ← c.token?
    if t.isSymbol && text.toList.isPrefixOf (c.rest t) then
      let split := c.split + text.length
      some ((), if t.text.length ≤ split then c.next else { c with split })
    else none
  | _, .word text => do
    let t ← c.token?
    if c.split = 0 && t.identifier? = some text then some ((), c.next) else none
  | _, .name => do
    let t ← c.token?
    let name ← t.identifier?
    if c.split = 0 then some (name, c.next) else none
  | _, .ident => do
    let t ← c.token?
    let name ← t.identifier?
    if c.split = 0 && !keywords.contains name then some (name, c.next) else none
  | _, .quoted => do
    match ← (← c.token?).literal? with
    | .quoted s => some (s, c.next)
    | _ => none
  | _, .number => do
    match ← (← c.token?).literal? with
    | .number n => some (n, c.next)
    | _ => none
  | _, .callable => do
    match ← (← c.token?).literal? with
    | .injected (.callable f) => some (f, c.next)
    | _ => none
  | _, .literal => do
    match ← (← c.token?).literal? with
    | .quoted s => some (.string s, c.next)
    | .number n => some (.number n, c.next)
    | .injected (.callable _) => none
    | .injected v => some (v, c.next)

/-- A terminal as messages name it. -/
def wanted {α : Type} : Terminal α → String
  | .symbol text | .word text => s!"'{text}'"
  | .name => "name"
  | .ident => "identifier"
  | .quoted => "string"
  | .number => "number"
  | .callable => "host function"
  | .literal => "literal"

/-- Reads a terminal after any line breaks. -/
def terminal (t : Terminal α) : Parse ρ α := fun c f =>
  match terminal? c.skipLines t with
  | some (a, c) => .ok a c f
  | none => want (wanted t) c.skipLines f

/-- As many as fit, `fuel` at most; one that takes nothing is the last. -/
def many (p : Parse ρ α) : Nat → Parse ρ (List α)
  | 0 => fun c f => .ok [] c f
  | fuel + 1 => fun c f =>
    either p
      (fun a d f => if d.sameAs c then .ok [a] d f
        else andThen (many p fuel) (fun as d f => .ok (a :: as) d f) d f)
      (fun c f => .ok [] c f) c f

/-- Items after the first, each after a comma. -/
def commaRest (p : Parse ρ α) : Nat → Parse ρ (List α)
  | 0 => fun c f => .ok [] c f
  | fuel + 1 =>
    either (terminal (.symbol ","))
      (fun _ c f =>
        if c.skipLines.nodes.isEmpty then .ok [] c.skipLines f
        else andThen p
          (fun a => andThen (commaRest p fuel) fun as c f => .ok (a :: as) c f) c.skipLines f)
      (fun c f => .ok [] c f)

def commaList (p : Parse ρ α) : Parse ρ (List α) := fun c f =>
  if c.skipLines.nodes.isEmpty then .ok [] c.skipLines f
  else andThen p
    (fun a c => andThen (commaRest p c.steps) (fun as c f => .ok (a :: as) c f) c) c.skipLines f

/-- As many as fit before a line break, `fuel` at most. -/
def lineList (p : Parse ρ α) : Nat → Parse ρ (List α)
  | 0 => fun c f => .ok [] c f
  | fuel + 1 => fun c f =>
    if c.atLineOrEnd then .ok [] c f
    else either p
      (fun a => andThen (lineList p fuel) fun as c f => .ok (a :: as) c f)
      (fun c f => .ok [] c f) c f

/-- The end of the nodes, after any line breaks. -/
def finish (what : String) : Parse ρ Unit := fun c f =>
  if c.skipLines.nodes.isEmpty then .ok () c.skipLines f else want what c.skipLines f

/-- The whole inside of a group, after any line breaks. -/
def group (b : Bracket) (p : Parse ρ α) : Parse ρ α := fun c f =>
  let c := c.skipLines
  match c.nodes with
  | .group opener closer children :: _ =>
    if opener.text = b.opener then
      andThen p
        (fun a => andThen (finish s!"'{b.closer}'") fun _ _ f => .ok a c.next f)
        { nodes := children, stop := closer.position } f
    else want s!"'{b.opener}'" c f
  | _ => want s!"'{b.opener}'" c f

/-- Refuses the program at the keyword, if it comes with `p` after it. -/
def refuse (keyword feature : String) (p : Parse ρ Unit) (r : Parse ρ α) : Parse ρ α := fun c f =>
  let c := c.skipLines
  either (terminal (.word keyword))
    (fun _ => andThen p fun _ _ _ => .fatal (.unsupported feature c.position)) r c f

end Parse

/-- Reads a phrase, given how to read productions. -/
def Phrase.parse {ρ : Type} [Notepad ρ] {ν : Type → Type}
    (call : {α : Type} → ν α → Parse ρ α) : {α : Type} → Phrase ν α → Parse ρ α
  | _, .pure a => fun c f => .ok a c f
  | _, .terminal t => Parse.terminal t
  | _, .production n => call n
  | _, .fail (some what) => Parse.want what
  | _, .fail none => fun _ f => .mismatch f
  | _, .seq p q => Parse.andThen (p.parse call) fun g =>
      Parse.andThen (q.parse call) fun a c f => .ok (g a) c f
  | _, .choose p q r => Parse.either (p.parse call)
      (fun a => Parse.andThen (q.parse call) fun g c f => .ok (g a) c f) (r.parse call)
  | _, .many p => fun c => Parse.many (p.parse call) c.steps c
  | _, .commaList p => Parse.commaList (p.parse call)
  | _, .lineList p => fun c => Parse.lineList (p.parse call) c.steps c
  | _, .group b p => Parse.group b (p.parse call)
  | _, .refuse keyword feature p r => Parse.refuse keyword feature (p.parse call) (r.parse call)
  | _, .finish what => Parse.finish what

end RuleMachine
