import RuleMachine.Machine
import RuleMachine.Text.Digit

/-!
# Configuration

The limits of a machine have defaults. A file may set each of them anew, and then a variable of the
environment may. A variable whose text is no numeral sets nothing. How the text of a file is read is
a parameter.
-/

namespace RuleMachine

/-- Settings of limits; those left out keep what they were. -/
structure Settings where
  dispatchDepth : Option Nat := none
  extendedStates : Option Nat := none
  deriving DecidableEq, Repr

/-- Why the environment sets no limits. -/
inductive ConfigError where
  /-- There is no text of the file. -/
  | unreadable
  /-- The text of the file is no settings. -/
  | malformed
  | zeroDispatchDepth
  | zeroExtendedStates
  deriving DecidableEq, Repr

namespace ConfigError

def message : ConfigError → String
  | unreadable => "failed to read config file"
  | malformed => "failed to parse config file"
  | zeroDispatchDepth => "configuration validation failed: max_dispatch_depth must be at least 1"
  | zeroExtendedStates => "configuration validation failed: max_extended_states must be at least 1"

/-- The message in front of which stands what was being done. -/
def wrapped (e : ConfigError) : String := "configuration error: " ++ e.message

end ConfigError

/-- The number that a text denotes: an optional plus sign and decimal digits, below `2 ^ 64`. -/
def readNumeral? (text : String) : Option Nat :=
  let digits := match text.toList with
    | '+' :: rest => rest
    | cs => cs
  (Text.natural? 10 digits).filter (· < UInt64.size)

namespace Limits

/-- The limits, some of them set anew. -/
def override (l : Limits) (s : Settings) : Limits where
  dispatchDepth := s.dispatchDepth.getD l.dispatchDepth
  extendedStates := s.extendedStates.getD l.extendedStates

/-- No limit may be zero. -/
def validate (l : Limits) : Except ConfigError Unit :=
  if l.dispatchDepth = 0 then .error .zeroDispatchDepth
  else if l.extendedStates = 0 then .error .zeroExtendedStates
  else .ok ()

/-- The limits that a file sets, the others by default. Its text is there if the file can be read,
and `read` finds the settings that are given in a text. -/
def ofFile (read : String → Option Settings) : Option String → Except ConfigError Limits
  | none => .error .unreadable
  | some text =>
    match read text with
    | none => .error .malformed
    | some s => .ok (({} : Limits).override s)

end Limits

/-- What the environment has under a name. -/
inductive Variable where
  | unset
  /-- It has something that is no text. -/
  | garbled
  | text (content : String)

/-- What is no text counts for nothing. -/
def Variable.text? : Variable → Option String
  | .unset | .garbled => none
  | .text content => some content

/-- What the environment holds: the path of a file, the numerals of the limits, and the files. -/
structure Environment where
  path : Variable := .unset
  dispatchDepth : Variable := .unset
  extendedStates : Variable := .unset
  /-- The text of the file with a path, if it can be read. -/
  contents : String → Option String

namespace Environment

/-- The settings that the variables make. -/
def settings (env : Environment) : Settings where
  dispatchDepth := env.dispatchDepth.text?.bind readNumeral?
  extendedStates := env.extendedStates.text?.bind readNumeral?

/-- The limits by default and by the variables, whatever the file. -/
def withoutFile (env : Environment) : Limits := ({} : Limits).override env.settings

/-- The limits by default, by the file and by the variables, if none is zero. -/
def limits (read : String → Option Settings) (env : Environment) : Except ConfigError Limits := do
  let base ← match env.path.text? with
    | none => .ok {}
    | some path => Limits.ofFile read (env.contents path)
  let limits := base.override env.settings
  limits.validate
  .ok limits

end Environment

end RuleMachine
