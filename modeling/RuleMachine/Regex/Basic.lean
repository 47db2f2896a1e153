import RuleMachine.Regex.CharSet

/-!
# Regular expressions

An expression describes texts and the places in them; `α` is how it names the characters it takes,
`β` how it names the conditions it puts on a place. Whether a text matches anywhere is all that is
asked of an expression, so it needs no notion of a preferred match.
-/

namespace RuleMachine

inductive Regex (α β : Type) where
  | empty
  | char (set : α)
  | look (condition : β)
  | seq (r s : Regex α β)
  | alt (r s : Regex α β)
  /-- At least `least` times, and at most `most` times if that is given. -/
  | repetition (r : Regex α β) (least : Nat) (most : Option Nat)

namespace Regex

/-- Conditions on a place between two characters, or at an end of the text. -/
inductive Look where
  | textStart
  | textEnd
  | lineStart
  | lineEnd
  /-- The same where a carriage return ends a line as well. -/
  | lineStartReturn
  | lineEndReturn
  | wordBoundary (word : CharSet)
  | notWordBoundary (word : CharSet)
  | wordStart (word : CharSet)
  | wordEnd (word : CharSet)
  | wordStartHalf (word : CharSet)
  | wordEndHalf (word : CharSet)

/-- Whether the condition holds between the characters `before` and `after`. -/
def Look.holds (before after : Option Char) : Look → Bool
  | textStart => before.isNone
  | textEnd => after.isNone
  | lineStart => before.isNone || before == some '\n'
  | lineEnd => after.isNone || after == some '\n'
  | lineStartReturn =>
    before.isNone || before == some '\n' || (before == some '\r' && after != some '\n')
  | lineEndReturn =>
    after.isNone || after == some '\r' || (after == some '\n' && before != some '\r')
  | wordBoundary w => before.any w.mem != after.any w.mem
  | notWordBoundary w => before.any w.mem == after.any w.mem
  | wordStart w => !before.any w.mem && after.any w.mem
  | wordEnd w => before.any w.mem && !after.any w.mem
  | wordStartHalf w => !before.any w.mem
  | wordEndHalf w => !after.any w.mem

/-- An expression over sets of characters. -/
abbrev Pattern := Regex CharSet Look

def map {α β γ δ : Type} (f : α → γ) (g : β → δ) : Regex α β → Regex γ δ
  | empty => empty
  | char a => char (f a)
  | look b => look (g b)
  | seq r s => seq (r.map f g) (s.map f g)
  | alt r s => alt (r.map f g) (s.map f g)
  | repetition r least most => repetition (r.map f g) least most

def seqs {α β : Type} : List (Regex α β) → Regex α β
  | [] => empty
  | [r] => r
  | r :: rest => seq r (seqs rest)

/-- The memory that an automaton for the pattern needs, in bytes. -/
def Pattern.weight : Pattern → Nat
  | .empty => 32
  | .char a => a.weight
  | .look _ => 32
  | .seq r s => weight r + weight s
  | .alt r s => weight r + weight s + 40
  | .repetition r least none => (weight r + 40) * max least 1
  | .repetition r _ (some most) => (weight r + 40) * most

/-! ## Search

A set of places in a text is a number whose binary digits are set at the places. Each expression
maps the places where it may start to the places where it may end. -/

/-- The set of the places, from `i` on, at which `p` holds of the characters around them. -/
def places (p : Option Char → Option Char → Bool) (i : Nat) :
    Option Char → List Char → Nat
  | before, [] => if p before none then 1 <<< i else 0
  | before, c :: rest =>
    (if p before (some c) then 1 <<< i else 0) ||| places p (i + 1) (some c) rest

/-- Applies `f` up to `n` times, less often if nothing changes any more. -/
def iterate (f : Nat → Nat) : Nat → Nat → Nat
  | 0, s => s
  | n + 1, s => if f s = s then s else iterate f n (f s)

/-- The places reached by applying `f` up to `n` times. -/
def spread (f : Nat → Nat) : Nat → Nat → Nat
  | 0, s => s
  | n + 1, s => if s ||| f s = s then s else spread f n (s ||| f s)

/-- The places where a match may end that starts at a place of `s`, in a text of `length`
characters. Characters and conditions are given by the places they stand at. -/
def ends (length : Nat) : Regex Nat Nat → Nat → Nat
  | empty, s => s
  | char set, s => (s &&& set) <<< 1
  | look condition, s => s &&& condition
  | seq r t, s => ends length t (ends length r s)
  | alt r t, s => ends length r s ||| ends length t s
  | repetition r least none, s =>
    spread (ends length r) (length + 1) (iterate (ends length r) least s)
  | repetition r least (some most), s =>
    spread (ends length r) (most - least) (iterate (ends length r) least s)

/-- Whether the pattern matches a part of the text. -/
def Pattern.isMatch (r : Pattern) (text : String) : Bool :=
  let cs := text.toList
  let located := r.map
    (fun a => places (fun _ after => after.any a.mem) 0 none cs)
    (fun l => places (fun before after => l.holds before after) 0 none cs)
  located.ends cs.length (Nat.pow 2 (cs.length + 1) - 1) ≠ 0

end Regex

end RuleMachine
