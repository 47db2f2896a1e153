import RuleMachine.Template
import RuleMachine.Proofs.Source.Arenas

/-!
# Reading with one cursor

Phrases are read here by one cursor that is moved over the items of a numbered group. It goes back
where an alternative does not fit, and while the inside of a group is read another one is moved in
its place. What has been passed of a symbol is counted in bytes. A text cannot be cut within a
character or behind its end, and a group that is not there cannot be looked up: either ends reading
altogether (`Halt.panic`), and so does a repetition that comes to the end of its laps. Every place
that a cursor is moved to is kept, and so is where each alternative that did not fit was begun and
where it left the cursor.
-/

namespace RuleMachine

namespace Text

/-- What is left of some characters behind a number of bytes, if they can be cut there. -/
def behind? : Nat → List Char → Option (List Char)
  | 0, cs => some cs
  | _ + 1, [] => none
  | n + 1, c :: cs => if c.utf8Size ≤ n + 1 then behind? (n + 1 - c.utf8Size) cs else none

end Text

/-- The place of the closer; a group without one ends where it begins. -/
def Group.stop {α : Type} (g : Group α) : Position := g.closer.elim g.position Token.position

/-- The items of a group, the number of those that are passed, the number of bytes that are passed
of the symbol in front, and the place where the items end. -/
structure Walker where
  items : Array (Item Value)
  passed : Nat := 0
  split : Nat := 0
  stop : Position

/-- Before the first item of a group. -/
def Group.front (g : Group Value) : Walker := { items := g.items, stop := g.stop }

namespace Walker

/-- The item in front. -/
def item? (w : Walker) : Option (Item Value) := w.items[w.passed]?

/-- Whether a line break or the end comes next. -/
def atLineOrEnd (w : Walker) : Bool := w.split = 0 && w.item?.all Item.isLine

/-- Goes back to as much as another walker has passed. -/
def backTo (w v : Walker) : Walker := { w with passed := v.passed, split := v.split }

/-- Laps enough for a repetition: more than there are steps to take over the items that are
left. -/
def laps (w : Walker) : Nat := (w.items.toList.drop w.passed).foldr (fun i n => steps i + n) 1
where
  steps : Item Value → Nat
    | .token t => t.text.length + 1
    | .group _ => 1

end Walker

/-- Why a walk ends early. -/
inductive Halt where
  | mismatch
  | fatal (e : ParseError)
  /-- A text is cut where it cannot be, or a group is looked up that is not there. -/
  | panic
  /-- The laps of a repetition or the fuel for nested productions are used up. -/
  | exhausted

namespace Walk

/-- The walker, the ones that it was before it was moved, what has been noted, and for each attempt
that failed the walker that it was begun with and the one that it left. -/
structure State where
  walker : Walker
  earlier : List Walker := []
  notes : Furthest := {}
  returns : List (Walker × Walker) := []

/-- All places that a walker was moved to, the last one first. -/
def State.path (s : State) : List Walker := s.walker :: s.earlier

def State.moveTo (w : Walker) (s : State) : State := { s with walker := w, earlier := s.path }

end Walk

/-- Reading by moving the walker. -/
structure Walk (α : Type) where
  run : Walk.State → Except Halt α × Walk.State

namespace Walk

variable {α β : Type}

instance : Monad Walk where
  pure x := ⟨fun s => (.ok x, s)⟩
  bind w k := ⟨fun s =>
    match w.run s with
    | (.ok x, s) => (k x).run s
    | (.error h, s) => (.error h, s)⟩

def halt (h : Halt) : Walk α := ⟨fun s => (.error h, s)⟩

def here : Walk Walker := ⟨fun s => (.ok s.walker, s)⟩

def noted : Walk Furthest := ⟨fun s => (.ok s.notes, s)⟩

def keep (f : Furthest) : Walk Unit := ⟨fun s => (.ok (), { s with notes := f })⟩

def moveTo (w : Walker) : Walk Unit := ⟨fun s => (.ok (), s.moveTo w)⟩

/-- Reads `p`. If it does not fit, the walker goes back to as much as it had passed. -/
def attempt (p : Walk α) : Walk α := ⟨fun s =>
  match p.run s with
  | (.error .mismatch, s') =>
    let back := s'.walker.backTo s.walker
    (.error .mismatch, { s'.moveTo back with returns := (s.walker, back) :: s'.returns })
  | r => r⟩

/-- Reads `p` if it fits. -/
def optional (p : Walk α) : Walk (Option α) := ⟨fun s =>
  match (attempt p).run s with
  | (.ok x, s) => (.ok (some x), s)
  | (.error .mismatch, s) => (.ok none, s)
  | (.error h, s) => (.error h, s)⟩

/-- Reads `p` with a walker of its own from the front of a group. -/
def inside (g : Group Value) (p : Walk α) : Walk α := ⟨fun s =>
  match p.run (s.moveTo g.front) with
  | (r, s') => (r, s'.moveTo s.walker)⟩

/-- Passes the item in front. -/
def next : Walk Unit := do
  let w ← here
  moveTo { w with passed := w.passed + 1, split := 0 }

/-- Passes line breaks, as many as there are items at most. -/
def passLines : Nat → Walk Unit
  | 0 => pure ()
  | n + 1 => do
    let w ← here
    if w.item?.any Item.isLine then
      moveTo { w with passed := w.passed + 1 }
      passLines n
    else pure ()

/-- Passes line breaks, unless the walker stands inside a token. -/
def skipLines : Walk Unit := do
  let w ← here
  if w.split = 0 then passLines (w.items.size - w.passed) else pure ()

/-- Whether the end comes next, after any line breaks. -/
def atEnd : Walk Bool := do
  skipLines
  let w ← here
  pure (w.items.size ≤ w.passed)

/-- The token in front, after any line breaks. -/
def token? : Walk (Option (Token Value)) := do
  skipLines
  let w ← here
  match w.item? with
  | some (.token t) => pure (some t)
  | _ => pure none

/-- What is left of the text of the token in front. -/
def rest (t : Token Value) : Walk (List Char) := do
  let w ← here
  match Text.behind? w.split t.text.toList with
  | some cs => pure cs
  | none => halt .panic

/-- As many as fit, with a number of laps at most; one that takes nothing is the last. -/
def many (p : Walk α) : Nat → Walk (List α)
  | 0 => halt .exhausted
  | laps + 1 => do
    let before ← here
    match ← optional p with
    | none => pure []
    | some x =>
      let after ← here
      if after.passed = before.passed ∧ after.split = before.split then pure [x]
      else
        let xs ← many p laps
        pure (x :: xs)

/-- As many as fit before a line break, with a number of laps at most. -/
def lineList (p : Walk α) : Nat → Walk (List α)
  | 0 => halt .exhausted
  | laps + 1 => do
    let w ← here
    if w.atLineOrEnd then pure []
    else
      match ← optional p with
      | none => pure []
      | some x =>
        let xs ← lineList p laps
        pure (x :: xs)

variable (a : Arena Value)

/-- Looks a group up. -/
def group (n : Nat) : Walk (Group Value) :=
  match a.groups[n]? with
  | some g => pure g
  | none => halt .panic

def position : Walk Position := do
  let w ← here
  match w.item? with
  | none => pure w.stop
  | some (.token t) =>
    pure { t.position with
      offset := t.position.offset + w.split
      column := t.position.column + w.split }
  | some (.group n) =>
    let g ← group a n
    pure g.position

/-- What comes next, as messages name it. -/
def describe : Walk String := do
  let w ← here
  match w.item? with
  | none => pure "end of input"
  | some (.group n) =>
    let g ← group a n
    pure s!"'{g.openerText}'"
  | some (.token t) =>
    match t.kind with
    | .line => pure "line break"
    | .literal (.quoted s) => pure s!"string {Text.showString s}"
    | .literal (.number n) => pure s!"number {Decimal.display n}"
    | .literal (.injected v) => pure s!"injected {v.kind}"
    | .ignored | .identifier | .punctuation | .operator =>
      let cs ← rest t
      pure ("'" ++ String.ofList cs ++ "'")

/-- Notes that `what` is asked for in vain. What comes next is looked at only where it is the
furthest so far. -/
def note (what : String) : Walk Unit := do
  let place ← position a
  let f ← noted
  match f.place with
  | none =>
    let found ← describe a
    keep ⟨some place, [what], found⟩
  | some p =>
    if place.offset < p.offset then pure ()
    else if p.offset = place.offset then
      keep (if f.expected.contains what then f else { f with expected := f.expected ++ [what] })
    else
      let found ← describe a
      keep ⟨some place, [what], found⟩

/-- Fails here for want of `what`. -/
def want (what : String) : Walk α := do
  note a what
  halt .mismatch

/-- Characters at the front of a symbol. -/
def symbol (text : String) : Walk Unit := do
  match ← token? with
  | none => want a (Parse.wanted (.symbol text))
  | some t =>
    if t.isSymbol then
      let cs ← rest t
      if text.toList.isPrefixOf cs then
        let w ← here
        if t.text.utf8ByteSize ≤ w.split + text.utf8ByteSize then next
        else moveTo { w with split := w.split + text.utf8ByteSize }
      else want a (Parse.wanted (.symbol text))
    else want a (Parse.wanted (.symbol text))

/-- A whole token; an identifier is looked for only where nothing of a token is passed. -/
def whole (identifier : Bool) (x : Terminal α) : Walk α := do
  let w ← here
  if identifier ∧ w.split ≠ 0 then want a (Parse.wanted x)
  else
    match ← token? with
    | none => want a (Parse.wanted x)
    | some t =>
      match x.value? t with
      | none => want a (Parse.wanted x)
      | some v => do
        next
        pure v

def terminal : {α : Type} → Terminal α → Walk α
  | _, .symbol text => symbol a text
  | _, .word text => whole a true (.word text)
  | _, .name => whole a true .name
  | _, .ident => whole a true .ident
  | _, .quoted => whole a false .quoted
  | _, .number => whole a false .number
  | _, .callable => whole a false .callable
  | _, .literal => whole a false .literal

/-- Items after the first, each after a comma, with a number of laps at most. -/
def commaRest (p : Walk α) : Nat → Walk (List α)
  | 0 => halt .exhausted
  | laps + 1 => do
    match ← optional (symbol a ",") with
    | none => pure []
    | some () =>
      if ← atEnd then pure []
      else
        let x ← p
        let xs ← commaRest p laps
        pure (x :: xs)

def commaList (p : Walk α) : Walk (List α) := do
  if ← atEnd then pure []
  else
    let x ← p
    let w ← here
    let xs ← commaRest a p w.laps
    pure (x :: xs)

def finish (what : String) : Walk Unit := do
  if ← atEnd then pure () else want a what

/-- The whole inside of a group, after any line breaks. -/
def bracketed (b : Bracket) (p : Walk α) : Walk α := do
  skipLines
  let w ← here
  match if w.split = 0 then w.item? else none with
  | some (.group n) =>
    let g ← group a n
    if g.openerText = b.opener then
      let x ← inside g do
        let x ← p
        finish a s!"'{b.closer}'"
        pure x
      next
      pure x
    else want a s!"'{b.opener}'"
  | _ => want a s!"'{b.opener}'"

/-- Refuses the program at the keyword, if it comes with `p` after it. -/
def refuse (keyword feature : String) (p : Walk Unit) (r : Walk α) : Walk α := do
  skipLines
  let place ← position a
  match ← optional (terminal a (.word keyword)) with
  | none => r
  | some () =>
    p
    halt (.fatal (.unsupported feature place))

end Walk

variable (a : Arena Value)

/-- Reads a phrase, given how to read productions. -/
def Phrase.walk {ν : Type → Type} (call : {α : Type} → ν α → Walk α) :
    {α : Type} → Phrase ν α → Walk α
  | _, .pure x => Pure.pure x
  | _, .terminal x => Walk.terminal a x
  | _, .production n => call n
  | _, .fail (some what) => Walk.want a what
  | _, .fail none => Walk.halt .mismatch
  | _, .seq p q => do
    let g ← p.walk call
    let x ← q.walk call
    return g x
  | _, .choose p q r => do
    match ← Walk.optional (p.walk call) with
    | none => r.walk call
    | some x =>
      let g ← q.walk call
      return g x
  | _, .many p => do
    let w ← Walk.here
    Walk.many (p.walk call) w.laps
  | _, .commaList p => Walk.commaList a (p.walk call)
  | _, .lineList p => do
    let w ← Walk.here
    Walk.lineList (p.walk call) w.laps
  | _, .group b p => Walk.bracketed a b (p.walk call)
  | _, .refuse keyword feature p r => Walk.refuse a keyword feature (p.walk call) (r.walk call)
  | _, .finish what => Walk.finish a what

/-- Reads a production, with fuel for `fuel` productions nested in each other. -/
def Production.walk : Nat → {α : Type} → Production α → Walk α
  | 0, _, _ => Walk.halt .exhausted
  | fuel + 1, _, n => n.phrase.walk a fun n => walk fuel n

/-- What has been read, or why it has not, if a walk came to an end of its own. -/
def Walk.outcome {α : Type} : Except Halt α × Walk.State → Option (Except ParseError α)
  | (.ok x, _) => some (.ok x)
  | (.error .mismatch, s) => some (.error s.notes.error)
  | (.error (.fatal e), _) => some (.error e)
  | (.error .panic, _) | (.error .exhausted, _) => none

/-- Walks over the groups from the front of the outermost one, as far as a program goes. -/
def Arena.walk (fuel : Nat) : Except Halt (List Declaration) × Walk.State :=
  match a.groups[0]? with
  | none => (.error .panic, { walker := { items := #[], stop := a.stop } })
  | some g =>
    (Production.program.walk a fuel).run { walker := { items := g.items, stop := a.stop } }

/-- The numbered groups of a template. -/
def Template.arena (t : Template) : Except SyntaxError (Arena Value) := do
  Arena.ofTokens brackets (← tokenize t.segments t.values)

end RuleMachine
