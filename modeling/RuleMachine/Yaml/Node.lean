import RuleMachine.Yaml.Token

/-!
# The node of a YAML text

Reads a text that holds one document at most. What a node means is left to the reader of the
settings: a tag counts for nothing, and all that is kept of the style of a scalar is whether it is
plain.
-/

namespace RuleMachine.Yaml

/-- A node of a document. An alias of a scalar is that scalar, one of a collection is a
reference. -/
inductive Node where
  | scalar (text : String) (plain : Bool)
  | sequence (items : List Node)
  | mapping (entries : List (Node × Node))
  | reference (anchor : String)

namespace Node

/-- Stands where a node is left out. -/
def missing : Node := scalar "" true

def isEmpty : Node → Bool
  | scalar text plain => plain && text.isEmpty
  | _ => false

def text? : Node → Option String
  | scalar text _ => some text
  | _ => none

def entries? : Node → Option (List (Node × Node))
  | mapping entries => some entries
  | _ => none

/-- A number as plain scalars write it: with a base after a zero, or decimal without zeros in
front; a plus sign may come first. -/
def readNatural? (text : List Char) : Option Nat :=
  match (match text with
    | '+' :: rest => rest
    | cs => cs) with
  | '0' :: 'x' :: digits => Text.natural? 16 digits
  | '0' :: 'o' :: digits => Text.natural? 8 digits
  | '0' :: 'b' :: digits => Text.natural? 2 digits
  | '0' :: _ :: _ => none
  | digits => Text.natural? 10 digits

/-- The number of a plain scalar, below `2 ^ 64`. -/
def natural? : Node → Option Nat
  | scalar text true => (readNatural? text.toList).filter (· < UInt64.size)
  | _ => none

end Node

/-- What is left of the tokens, the nodes of the anchors seen, and the handles declared for
tags. -/
structure Progress where
  tokens : List Token
  anchors : List (String × Node) := []
  handles : List String := []

/-- Reading from tokens; `none` if they make no document. -/
abbrev Read := StateT Progress Option

namespace Read

def peek : Read (Option Token) := do return (← get).tokens.head?

def skip : Read Unit := modify fun c => { c with tokens := c.tokens.drop 1 }

/-- Whether the next token is one of `ts`. -/
def nextIsAmong (ts : List Token) : Read Bool := do return (← peek).any ts.contains

/-- Passes the next token if it is `t`. -/
def accept (t : Token) : Read Bool := do
  if ← nextIsAmong [t] then
    skip
    return true
  else return false

/-- The tag of a node, if it has one; its handle must be declared. -/
def tag : Read Bool := do
  match ← peek with
  | some (.tag handle) =>
    skip
    if ["", "!", "!!"].contains handle || (← get).handles.contains handle then return true
    else failure
  | _ => return false

/-- The anchor of a node, if it has one. -/
def anchor : Read (Option String) := do
  match ← peek with
  | some (.anchor name) =>
    skip
    return some name
  | _ => return none

/-- The anchor and the tag before a node, in any order: the anchor, and whether there is any. -/
def properties : Read (Option String × Bool) := do
  match ← anchor with
  | some name =>
    let _ ← tag
    return (some name, true)
  | none =>
    if ← tag then return (← anchor, true) else return (none, false)

/-- Gives an anchor its node. -/
def attach (anchor : Option String) (n : Node) : Read Unit :=
  match anchor with
  | some name => modify fun c => { c with anchors := (name, n) :: c.anchors }
  | none => pure ()

/-- Gives the anchor of a collection a reference. -/
def attachReference (anchor : Option String) : Read Unit :=
  anchor.forM fun name => attach anchor (.reference name)

mutual

/-- A node. `block` says whether it may be a collection shown by indentation, `dashes` whether it
may be a sequence whose dashes are not indented. -/
def node : Nat → Bool → Bool → Read Node
  | 0, _, _ => failure
  | fuel + 1, block, dashes => do
    if let some (.alias name) := ← peek then
      skip
      return ← ((← get).anchors.lookup name : Option Node)
    let (anchor, any) ← properties
    match ← peek with
    | some (.scalar text plain) =>
      skip
      attach anchor (.scalar text plain)
      return .scalar text plain
    | some .openSequence =>
      skip
      attachReference anchor
      return .sequence (← flowItems fuel true)
    | some .openMapping =>
      skip
      attachReference anchor
      return .mapping (← flowEntries fuel true)
    | some t =>
      if dashes && t = .item then
        attachReference anchor
        return .sequence (← flushItems fuel)
      else if block && t = .blockSequence then
        skip
        attachReference anchor
        return .sequence (← blockItems fuel)
      else if block && t = .blockMapping then
        skip
        attachReference anchor
        return .mapping (← blockEntries fuel)
      else leftOut anchor any
    | none => leftOut anchor any
where
  /-- A node may be left out after its anchor or tag. -/
  leftOut (anchor : Option String) (any : Bool) : Read Node := do
    if any then
      attach anchor .missing
      return .missing
    else failure

/-- A node, or nothing before one of the tokens `ends`. -/
def nodeBefore (ends : List Token) : Nat → Bool → Bool → Read Node
  | 0, _, _ => failure
  | fuel + 1, block, dashes => do
    if ← nextIsAmong ends then return .missing else node fuel block dashes

/-- The items of a sequence up to the end of its indentation. -/
def blockItems : Nat → Read (List Node)
  | 0 => failure
  | fuel + 1 => do
    if ← accept .item then
      let n ← nodeBefore [.item, .dedent] fuel true false
      return n :: (← blockItems fuel)
    else if ← accept .dedent then return []
    else failure

/-- The items of a sequence whose dashes are not indented. -/
def flushItems : Nat → Read (List Node)
  | 0 => failure
  | fuel + 1 => do
    if ← accept .item then
      let n ← nodeBefore [.item, .key, .value, .dedent] fuel true false
      return n :: (← flushItems fuel)
    else return []

/-- The entries of a mapping up to the end of its indentation. -/
def blockEntries : Nat → Read (List (Node × Node))
  | 0 => failure
  | fuel + 1 => do
    if ← accept .key then
      let k ← nodeBefore [.key, .value, .dedent] fuel true true
      let v ← valueBefore [.key, .value, .dedent] fuel true
      return (k, v) :: (← blockEntries fuel)
    else if ← accept .dedent then return []
    else failure

/-- The value after a key, if there is one. -/
def valueBefore (ends : List Token) : Nat → Bool → Read Node
  | 0, _ => failure
  | fuel + 1, block => do
    if ← accept .value then nodeBefore ends fuel block block else return .missing

/-- The items of a sequence up to its closing bracket. A key stands for a mapping of one entry; a
token in the place of that key's node is passed over. -/
def flowItems : Nat → Bool → Read (List Node)
  | 0, _ => failure
  | fuel + 1, first => do
    if ← accept .closeSequence then return []
    if !first && !(← accept .comma) then failure
    if !first && (← accept .closeSequence) then return []
    if ← accept .key then
      let leftOut ← nextIsAmong [.value, .comma, .closeSequence]
      let k ← if leftOut then do
          skip
          pure .missing
        else node fuel false false
      let v ← valueBefore [.comma, .closeSequence] fuel false
      return .mapping [(k, v)] :: (← flowItems fuel false)
    else
      let n ← node fuel false false
      return n :: (← flowItems fuel false)

/-- The entries of a mapping up to its closing bracket. -/
def flowEntries : Nat → Bool → Read (List (Node × Node))
  | 0, _ => failure
  | fuel + 1, first => do
    if ← accept .closeMapping then return []
    if !first && !(← accept .comma) then failure
    if !first && (← accept .closeMapping) then return []
    if ← accept .key then
      let k ← nodeBefore [.value, .comma, .closeMapping] fuel false false
      let v ← valueBefore [.comma, .closeMapping] fuel false
      return (k, v) :: (← flowEntries fuel false)
    else
      let k ← node fuel false false
      return (k, .missing) :: (← flowEntries fuel false)

end

/-- The directives before a document: at most one version, which must be 1.1 or 1.2, and the
handles of tags, each once. The answer says whether there is any. -/
def directives : Nat → Bool → Read Bool
  | 0, _ => failure
  | fuel + 1, versioned => do
    match ← peek with
    | some (.version major minor) =>
      skip
      if versioned || major ≠ 1 || minor ≠ 1 && minor ≠ 2 then failure
      let _ ← directives fuel true
      return true
    | some (.tagHandle handle) =>
      skip
      if (← get).handles.contains handle then failure
      modify fun c => { c with handles := handle :: c.handles }
      let _ ← directives fuel versioned
      return true
    | _ => return false

/-- The marks after a document, and the end of the text. -/
def finish : Nat → Read Unit
  | 0 => failure
  | fuel + 1 => do
    if ← accept .documentEnd then finish fuel
    else if (← peek).isSome then failure

/-- The node of the only document; a text without any document has an empty one. -/
def document (fuel : Nat) : Read Node := do
  let declared ← directives fuel false
  if ← accept .documentStart then
    if (← nextIsAmong [.documentStart, .documentEnd]) || (← peek).isNone then
      finish fuel
      return .missing
  else if declared then failure
  else if (← peek).isNone then return .missing
  let n ← node fuel true false
  finish fuel
  return n

end Read

/-- The node of a text, or `none` if it is no single document. A byte order mark may come first. -/
def read? (text : String) : Option Node := do
  let cs := text.toList
  if !cs.all isAllowed then none
  let tokens ← tokens? (if cs.head? = some mark then cs.tail else cs)
  let (n, _) ← (Read.document (4 * tokens.length + 8)).run { tokens }
  some n

end RuleMachine.Yaml
