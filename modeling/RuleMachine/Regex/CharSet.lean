import RuleMachine.Text.Blank
import RuleMachine.Text.Category
import RuleMachine.Text.Fold
import RuleMachine.Text.Property
import RuleMachine.Text.Script

/-!
# Sets of characters in patterns

A set is written with the operations that patterns have, over ranges of code points, and asked for
membership only.
-/

namespace RuleMachine.Regex

inductive CharSet where
  | codes (s : Text.CodePoints)
  /-- The characters used in a script, beyond those that belong to it. -/
  | usedIn (script : String)
  | compl (a : CharSet)
  | union (a b : CharSet)
  | inter (a b : CharSet)
  | diff (a b : CharSet)
  | symm (a b : CharSet)
  /-- With every member all characters that differ from it in case only. -/
  | anyCase (a : CharSet)
  /-- With every letter of ASCII in the set the same letter in the other case. -/
  | anyAsciiCase (a : CharSet)

namespace CharSet

def mem : CharSet → Char → Bool
  | codes s, c => s.contains c
  | usedIn script, c => Text.isUsedIn script c
  | compl a, c => !a.mem c
  | union a b, c => a.mem c || b.mem c
  | inter a b, c => a.mem c && b.mem c
  | diff a b, c => a.mem c && !b.mem c
  | symm a b, c => a.mem c != b.mem c
  | anyCase a, c => (Text.caseVariants c).any fun n => a.mem (Char.ofNat n)
  | anyAsciiCase a, c => a.mem c || a.mem c.toLower || a.mem c.toUpper

def none : CharSet := codes []

def all : CharSet := codes [⟨0, 0x10FFFF⟩]

def single (c : Char) : CharSet := codes [⟨c.toNat, c.toNat⟩]

def range (first last : Char) : CharSet := codes [⟨first.toNat, last.toNat⟩]

def ofChars (cs : List Char) : CharSet := codes (cs.map fun c => ⟨c.toNat, c.toNat⟩)

def unions : List CharSet → CharSet
  | [] => none
  | [a] => a
  | a :: rest => union a (unions rest)

def property (name : String) : CharSet := codes ((Text.property? name).getD [])

def category (name : String) : CharSet := codes ((Text.category? name).getD [])

/-- Decimal digits of all scripts. -/
def digit : CharSet := category "nd"

def space : CharSet := property "whitespace"

/-- The characters of words: letters, marks, decimal digits, connectors, and what joins letters. -/
def word : CharSet :=
  unions [property "alphabetic", category "m", category "nd", category "pc",
    property "joincontrol"]

def asciiDigit : CharSet := range '0' '9'

def asciiSpace : CharSet := ofChars ['\t', '\n', '\x0b', '\x0c', '\r', ' ']

def asciiWord : CharSet := unions [asciiDigit, range 'A' 'Z', range 'a' 'z', single '_']

/-- The named sets within ASCII. -/
def ascii? (name : String) : Option CharSet :=
  match name with
  | "alnum" => some (unions [asciiDigit, range 'A' 'Z', range 'a' 'z'])
  | "alpha" => some (unions [range 'A' 'Z', range 'a' 'z'])
  | "ascii" => some (range '\x00' '\x7f')
  | "blank" => some (ofChars ['\t', ' '])
  | "cntrl" => some (unions [range '\x00' '\x1f', single '\x7f'])
  | "digit" => some asciiDigit
  | "graph" => some (range '!' '~')
  | "lower" => some (range 'a' 'z')
  | "print" => some (range ' ' '~')
  | "punct" => some (unions [range '!' '/', range ':' '@', range '[' '\x60', range '\x7b' '~'])
  | "space" => some asciiSpace
  | "upper" => some (range 'A' 'Z')
  | "word" => some asciiWord
  | "xdigit" => some (unions [asciiDigit, range 'A' 'F', range 'a' 'f'])
  | _ => Option.none

/-- Whether the set has a member from the 128th code point to the 255th. -/
def hasHighByte (a : CharSet) : Bool := (List.range 128).any fun i => a.mem (Char.ofNat (128 + i))

/-- The number of ranges that the set is made of, roughly. -/
def ranges : CharSet → Nat
  | codes s => s.length
  | usedIn _ => 50
  | compl a => a.ranges + 1
  | union a b | inter a b | diff a b | symm a b => a.ranges + b.ranges
  | anyCase a | anyAsciiCase a => 2 * a.ranges

/-- Whether the set is within ASCII by the way it is written. -/
def isAscii : CharSet → Bool
  | codes s => s.all (·.last < 128)
  | usedIn _ | compl _ | anyCase _ => false
  | union a b | symm a b => a.isAscii && b.isAscii
  | inter a b => a.isAscii || b.isAscii
  | diff a _ => a.isAscii
  | anyAsciiCase a => a.isAscii

/-- The memory that an automaton needs for one character of the set, in bytes. -/
def weight (a : CharSet) : Nat :=
  if a.isAscii then 32 + (if a.ranges ≤ 1 then 0 else 8 * a.ranges) else 72 * a.ranges + 64

end CharSet

end RuleMachine.Regex
