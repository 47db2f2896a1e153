import RuleMachine.Text.Digit

/-!
# Sets of code points

A set of code points is a list of ranges. The tables of character properties are kept as text,
gaps and lengths in turn (`ofGaps`), or as runs that name a value each (`ofRuns`).
-/

namespace RuleMachine.Text

/-- The code points from `first` to `last`, both included. -/
structure Range where
  first : Nat
  last : Nat
  deriving DecidableEq, Repr

def Range.contains (r : Range) (n : Nat) : Bool := r.first ≤ n && n ≤ r.last

/-- A set of code points, as ranges. -/
abbrev CodePoints := List Range

namespace CodePoints

def contains (s : CodePoints) (c : Char) : Bool := s.any (·.contains c.toNat)

/-- The hexadecimal numbers in a text, whatever stands between them. -/
def hexNumbers : Option Nat → List Char → List Nat
  | none, [] => []
  | some n, [] => [n]
  | acc, c :: rest =>
    match digit? 16 c, acc with
    | some d, none => hexNumbers (some d) rest
    | some d, some n => hexNumbers (some (16 * n + d)) rest
    | none, none => hexNumbers none rest
    | none, some n => n :: hexNumbers none rest

/-- Reads gaps and lengths in turn, from the code point `next` on. -/
def fromGaps (next : Nat) : List Nat → CodePoints
  | gap :: length :: rest =>
    ⟨next + gap, next + gap + length - 1⟩ :: fromGaps (next + gap + length) rest
  | _ => []

/-- The set written as `gap+length`, in hexadecimal, for each of its ranges. -/
def ofGaps (table : String) : CodePoints := fromGaps 0 (hexNumbers none table.toList)

/-- The pieces of a text between spaces and line feeds. -/
def words (acc : List Char) : List Char → List (List Char)
  | [] => if acc.isEmpty then [] else [acc.reverse]
  | c :: rest =>
    if c = ' ' ∨ c = '\n' then
      if acc.isEmpty then words [] rest else acc.reverse :: words [] rest
    else words (c :: acc) rest

/-- A run of code points that share the value `name`. -/
structure Run where
  name : String
  range : Range

/-- Reads runs written as `name:length`, from the code point `next` on. -/
def fromRuns (next : Nat) : List (List Char) → List Run
  | [] => []
  | word :: rest =>
    let length := (hexNumbers none (word.dropWhile (· ≠ ':'))).headD 0
    ⟨String.ofList (word.takeWhile (· ≠ ':')), ⟨next, next + length - 1⟩⟩ ::
      fromRuns (next + length) rest

/-- The runs written as `name:length`, the length in hexadecimal, from the first code point on. -/
def ofRuns (table : String) : List Run := fromRuns 0 (words [] table.toList)

/-- The code points of the runs whose value satisfies `p`. -/
def ofValue (runs : List Run) (p : String → Bool) : CodePoints :=
  (runs.filter fun r => p r.name).map (·.range)

end CodePoints

end RuleMachine.Text
