/-!
# Engines for patterns

Which texts are patterns, and what a pattern matches, is settled by an engine outside of this
library. Whatever uses patterns takes the engine as a parameter.
-/

namespace RuleMachine.Regex

/-- An engine for patterns: compiling one is a function of its text. -/
class Engine where
  Pattern : Type
  /-- The pattern with a given text, if the text is a pattern. -/
  compile : String → Option Pattern
  /-- Whether the pattern matches a part of the text. -/
  isMatch : Pattern → String → Bool

/-- Whether a text is a pattern and matches a part of another text. -/
def Engine.search [Engine] (text haystack : String) : Bool :=
  ((compile text).map (isMatch · haystack)).getD false

/-- Letters and digits match themselves. Here no other text is a pattern. -/
abbrev Engine.literal : Engine where
  Pattern := String
  compile text := if text.toList.all (·.isAlphanum) then some text else none
  isMatch text haystack :=
    (List.range (haystack.length + 1)).any fun i =>
      text.toList.isPrefixOf (haystack.toList.drop i)

end RuleMachine.Regex
