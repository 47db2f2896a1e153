import RuleMachine.Text.Category

/-!
# Escaped text

Messages show a character or a string between quotes, with everything escaped that would not be
seen: control characters, blanks other than the space, unassigned code points, and characters that
attach to the one before them.
-/

namespace RuleMachine.Text

/-- The characters with the property Grapheme_Extend: they attach to the character before them. -/
def attaching : CodePoints := CodePoints.ofGaps
  "300+70 113+7 107+2d 1+1 1+2 1+2 1+1 48+b 30+15 10+1 65+7 2+6 2+2 1+4 23+1 1e+1b 5b+b 3a+9 9+1
  18+4 1+9 1+3 1+5 2b+3 3b+9 2a+18 1+20 37+1 1+1 4+8 4+1 3+7 a+2 1d+1 3a+1 1+1 2+4 8+1 9+1 a+2
  1a+1 2+2 39+1 4+2 4+2 2+3 3+1 1e+2 3+1 b+2 39+1 4+5 1+2 4+1 14+2 16+6 1+1 3a+1 1+2 1+4 8+1 7+3
  a+2 1e+1 3b+1 1+1 c+1 9+1 28+1 3+1 37+1 1+3 5+3 1+4 7+2 b+2 1d+1 3a+1 2+2 1+1 3+3 1+4 7+2 b+2
  1c+2 39+2 1+1 2+4 8+1 9+1 a+2 1d+1 48+1 4+1 2+3 1+1 8+1 51+1 2+7 c+8 62+1 2+9 b+7 49+2 1b+1 1+1
  1+1 37+e 1+5 1+2 5+b 1+24 9+1 66+4 1+6 1+2 2+2 19+2 4+3 10+4 d+1 2+2 6+1 f+1 2bf+3 3b2+4 1c+3
  1d+2 1e+2 40+2 1+7 8+1 2+b 9+1 2d+3 1+1 75+2 22+1 76+3 4+2 9+1 6+3 db+2 2+1 3a+1 1+7 1+1 1+1 2+8
  6+a 2+1 30+1f 31+4 30+a 4+3 26+9 c+2 20+4 2+6 38+1 1+2 3+1 1+5 38+8 2+2 98+3 1+d 1+7 4+1 6+1 3+2
  c6+40 20c+1 c3+21 bfe+3 8d+1 60+20 22a+6 69+2 75d4+4 1+a 20+2 50+2 110+1 3+1 4+1 19+2 5+1 97+2
  1a+12 d+1 26+8 19+b 1+1 2c+3 30+1 2+4 2+2 2+1 24+1 43+6 2+2 2+2 c+1 8+1 2f+1 33+1 1+3 2+2 5+2
  1+1 2a+2 8+1 ee+1 2+1 4+1 4f30+1 2e1+10 10+10 16e+2 25d+1 e2+1 95+5 686+3 1+2 5+4 28+3 4+1 a5+2
  23d+4 41+5 13d+2 4f+4 46+b 31+4 7b+1 36+f 29+1 2+2 a+3 31+4 2+2 7+1 3d+3 24+5 1+8 3e+1 c+2 34+9
  1+1 8+4 2+1 5f+3 2+4 6+1 2+1 9d+1 3+8 15+2 39+2 1+1 1+1 c+1 9+1 e+7 3+5 43+1 2+6 1+1 2+1 1+3 4+3
  1+1 e+2 55+8 2+3 1+1 17+1 51+1 2+6 1+1 2+1 1+2 1+2 eb+1 2+4 6+2 1+2 1b+2 55+8 2+1 1+2 6a+1 1+1
  2+8 65+1 1+1 2+4 1+5 103+9 1+2 f5+1 a+4 4+1 90+4 2+2 4+1 20+a 28+6 2+4 8+1 9+6 2+3 2e+d 1+2
  196+7 1+6 1+1 52+16 2+7 1+2 1+2 7a+6 3+1 1+2 1+7 1+1 48+2 3+1 1+1 15b+2 b+2 34+5 5+3 17+1 14e5+1
  6+f 2cc8+c 3+3 9c0+5 3b+7 418+1 3f+4 51+1 b+2 4cab+2 1261+2e 2+17 21e+5 3+6 8+8 2+7 1e+4 94+3
  7bb+37 4+32 8+1 e+1 16+5 1+f 550+7 1+11 2+7 1+2 1+5 64+1 a0+7 177+1 3d+4 1fc+4 fe+2 2e0+7 6d+7
  c16d5+60 80+f0"

/-- The code points of the categories that leave nothing to see. -/
def invisible : CodePoints := CodePoints.ofValue categories fun category =>
  ["Cc", "Cf", "Cs", "Co", "Cn", "Zl", "Zp", "Zs"].contains category

/-- A character that messages show as it is. -/
def isShown (c : Char) : Bool :=
  if c.toNat < 128 then 32 ≤ c.toNat && c.toNat < 127
  else !(attaching.contains c || invisible.contains c)

/-- The digits of a number in lower-case hexadecimal. -/
def hex (n : Nat) : String := String.ofList (Nat.toDigits 16 n)

/-- A character between quotes of the kind `quote`; the other quote needs no escape. -/
def escapeChar (quote c : Char) : String :=
  if c = '\x00' then "\\0"
  else if c = '\t' then "\\t"
  else if c = '\r' then "\\r"
  else if c = '\n' then "\\n"
  else if c = '\\' || c = quote then String.ofList ['\\', c]
  else if isShown c then c.toString
  else "\\u\x7b" ++ hex c.toNat ++ "\x7d"

/-- A character as messages show it. -/
def showChar (c : Char) : String := "'" ++ escapeChar '\'' c ++ "'"

/-- A string as messages show it. -/
def showString (s : String) : String :=
  "\"" ++ String.join (s.toList.map (escapeChar '"')) ++ "\""

end RuleMachine.Text
