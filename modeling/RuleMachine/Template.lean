import RuleMachine.Config
import RuleMachine.Grammar.Productions
import RuleMachine.Machine
import RuleMachine.Source.Arena
import RuleMachine.Source.Lexer

/-!
# From source to machine

The source of a program is a template: text with values of the host between its segments. It is
scanned, assembled into a tree, read by the grammar and made a machine; each stage has errors of
its own.
-/

namespace RuleMachine

/-- Source text with values of the host in it, each after a segment of text; `last` is the segment
after the last value. -/
structure Template where
  before : List (String × Value) := []
  last : String := ""

namespace Template

def ofText (text : String) : Template := { last := text }

/-- Adds source text at the end. -/
def text (t : Template) (more : String) : Template := { t with last := t.last ++ more }

/-- Adds a value at the end. -/
def inject (t : Template) (value : Value) : Template :=
  { before := t.before ++ [(t.last, value)] }

def segments (t : Template) : List String := t.before.map Prod.fst ++ [t.last]

def values (t : Template) : List Value := t.before.map Prod.snd

end Template

/-- Why a template has no machine. -/
inductive CompileError where
  | source (e : SyntaxError)
  | grammar (e : ParseError)
  | machine (e : MachineError)
  | config (e : ConfigError)
  deriving DecidableEq

namespace CompileError

def code : CompileError → String
  | source e => e.code
  | grammar e => e.code
  | machine e => e.code
  | config _ => "CONFIG_ERROR"

def message : CompileError → String
  | source e => "syntax error: " ++ e.message
  | grammar e => e.message
  | machine e => e.message
  | config e => e.wrapped

/-- The place in the source where the error was found, if it is about the source. -/
def place? : CompileError → Option Position
  | source e => some e.place
  | grammar e => some e.place
  | machine _ | config _ => none

end CompileError

/-- The brackets of the language. -/
def brackets : Delimiters :=
  .ofPairs ([Bracket.round, .square, .curly].map fun b => (b.opener, b.closer))

namespace Template

/-- The tree of a template. -/
def tree (t : Template) : Except SyntaxError (Tree Value) := do
  assemble brackets (← tokenize t.segments t.values)

/-- What can be checked of the tree of a template holds of a tree that it has. -/
theorem exists_tree {P : Tree Value → Prop} [DecidablePred P] {t : Template}
    (h : t.tree.toOption.any (P ·)) : ∃ tree, t.tree = .ok tree ∧ P tree := by
  cases assembled : t.tree with
  | ok tree => exact ⟨tree, rfl, by simpa [assembled, Except.toOption] using h⟩
  | error e => simp [assembled, Except.toOption] at h

/-- The declarations of a template. -/
def parse (t : Template) : Except CompileError (List Declaration) := do
  let tree ← t.tree.mapError .source
  tree.program.mapError .grammar

/-- The machine of a template, with the limits given. -/
def compile (limits : Limits) (t : Template) : Except CompileError Machine := do
  (Machine.compile limits (← t.parse)).mapError .machine

/-- The machine of a template, with the limits that the environment sets; `read` finds the settings
in the text of a file. -/
def compileIn (read : String → Option Settings) (env : Environment) (t : Template) :
    Except CompileError Machine := do
  t.compile (← (env.limits read).mapError .config)

end Template

end RuleMachine
