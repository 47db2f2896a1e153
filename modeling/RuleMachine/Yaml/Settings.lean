import RuleMachine.Config
import RuleMachine.Yaml.Node

/-!
# Settings in files

A reader of files of settings that is there to run machines with, and what is written for it to
read. What is proved of limits holds with every reader.
-/

namespace RuleMachine

namespace Settings

/-- The name of the setting of the dispatch depth in a file. -/
def depthKey : String := "max_dispatch_depth"

/-- The name of the setting of the number of extended states in a file. -/
def statesKey : String := "max_extended_states"

/-- Adds an entry of a file. Each setting may be made once, other names are passed over. -/
def addEntry (s : Settings) (entry : Yaml.Node × Yaml.Node) : Option Settings := do
  let key ← entry.1.text?
  if key = depthKey then
    if s.dispatchDepth.isSome then none
    else some { s with dispatchDepth := some (← entry.2.natural?) }
  else if key = statesKey then
    if s.extendedStates.isSome then none
    else some { s with extendedStates := some (← entry.2.natural?) }
  else some s

/-- The settings of a document: an empty one makes none, a mapping those of its entries. -/
def ofNode? (n : Yaml.Node) : Option Settings :=
  if n.isEmpty then some {}
  else do (← n.entries?).foldlM addEntry {}

/-- The settings in the text of a file. -/
def ofFile? (text : String) : Option Settings := do ofNode? (← Yaml.read? text)

end Settings

/-- The text of the file that sets these limits. -/
def Limits.fileText (l : Limits) : String :=
  s!"{Settings.depthKey}: {l.dispatchDepth}\n{Settings.statesKey}: {l.extendedStates}\n"

end RuleMachine
