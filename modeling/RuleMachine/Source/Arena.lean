import RuleMachine.Source.Tree

/-!
# Assembling tokens

Brackets are matched in one pass over the tokens. A group is numbered and stored when its opener is
met; when its closer is met, it becomes an item of the group around it, which holds it by its
number. Ignored tokens are left out, and of line breaks in a row only the first is kept. Once all
tokens are taken in, the tree is read off the numbered groups (`assemble`).
-/

namespace RuleMachine

/-- What a group holds: a token, or another group by its number. -/
inductive Item (α : Type) where
  | token (t : Token α)
  | group (number : Nat)
  deriving DecidableEq

/-- A group with its opener and closer. The outermost group has neither, and a group that is still
open has no closer yet. -/
structure Group (α : Type) where
  opener : Option (Token α) := none
  closer : Option (Token α) := none
  items : Array (Item α) := #[]
  deriving DecidableEq

namespace Group

variable {α : Type}

/-- The text of the opener; the outermost group has none. -/
def openerText (g : Group α) : String := g.opener.elim "" Token.text

/-- The place of the opener; the outermost group begins where the source does. -/
def position (g : Group α) : Position := g.opener.elim .start Token.position

def add (item : Item α) (g : Group α) : Group α := { g with items := g.items.push item }

def close (t : Token α) (g : Group α) : Group α := { g with closer := some t }

end Group

/-- Groups by their numbers, the outermost one first, and the place just past the last token. -/
structure Arena (α : Type) where
  groups : Array (Group α)
  stop : Position
  deriving DecidableEq

/-- The state of assembling: the groups so far, the numbers of the open ones from the innermost
outwards, whether the last token kept was a line break, and the place reached. The outermost group
is never closed, and its number not listed. -/
structure Draft (α : Type) where
  groups : Array (Group α) := #[{}]
  opened : List Nat := []
  afterLine : Bool := false
  stop : Position := .start

namespace Draft

variable {α : Type}

/-- The group with a number. -/
def group (d : Draft α) (n : Nat) : Group α := d.groups[n]?.getD {}

/-- The number of the innermost of some open groups. -/
def innermost (opened : List Nat) : Nat := opened.headD 0

/-- Adds a kept token according to its role. -/
def place (ds : Delimiters) (d : Draft α) (t : Token α) : Except SyntaxError (Draft α) :=
  match ds.role? t with
  | none => .ok { d with groups := d.groups.modify (innermost d.opened) (.add (.token t)) }
  | some (.opens _) => .ok
    { d with groups := d.groups.push { opener := some t }, opened := d.groups.size :: d.opened }
  | some (.closes opener) =>
    match d.opened with
    | [] => .error (.unmatchedClose t.text t.position)
    | n :: outer =>
      if (d.group n).openerText = opener then
        let closed := d.groups.modify n (.close t)
        .ok { d with groups := closed.modify (innermost outer) (.add (.group n)), opened := outer }
      else
        let expected := match ds.lookup (d.group n).openerText with
          | some (.opens close) => close
          | _ => (d.group n).openerText
        .error (.mismatchedClose expected t.text t.position)

/-- Takes the next token in. -/
def push (ds : Delimiters) (d : Draft α) (t : Token α) : Except SyntaxError (Draft α) :=
  let d := { d with stop := t.stop }
  if t.isIgnored then .ok d
  else if t.isLine && d.afterLine then .ok d
  else place ds { d with afterLine := t.isLine } t

/-- The groups, once every one is closed. -/
def finish (d : Draft α) : Except SyntaxError (Arena α) :=
  match d.opened with
  | [] => .ok ⟨d.groups, d.stop⟩
  | n :: _ => .error (.unclosed (d.group n).openerText (d.group n).position)

end Draft

namespace Arena

variable {α : Type}

/-- The groups of a token sequence. -/
def ofTokens (ds : Delimiters) (tokens : List (Token α)) : Except SyntaxError (Arena α) := do
  (← tokens.foldlM (Draft.push ds) {}).finish

/-- The node of an item, given how the items of a closed group are read. -/
def node? (groups : Array (Group α)) (read : Array (Item α) → List (Node α)) :
    Item α → Option (Node α)
  | .token t => some (.token t)
  | .group n =>
    match groups[n]? with
    | some ⟨some opener, some closer, items⟩ => some (.group opener closer (read items))
    | _ => none

/-- The nodes of some items, with groups inside each other up to a depth. -/
def nodes (groups : Array (Group α)) : Nat → Array (Item α) → List (Node α)
  | 0, _ => []
  | depth + 1, items => items.toList.filterMap (node? groups (nodes groups depth))

/-- The tree of the outermost group. A group has a greater number than the one that holds it, so
that there are as many groups as any can be deep. -/
def tree (a : Arena α) : Tree α where
  nodes := nodes a.groups a.groups.size (a.groups[0]?.elim #[] Group.items)
  stop := a.stop

end Arena

/-- Assembles tokens into a tree. -/
def assemble {α : Type} (ds : Delimiters) (tokens : List (Token α)) : Except SyntaxError (Tree α) :=
  (Arena.ofTokens ds tokens).map Arena.tree

end RuleMachine
