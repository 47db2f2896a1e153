import RuleMachine.Text.CodePoints

/-!
# Identifier characters

The Unicode properties XID_Start and XID_Continue. The tables hold what lies outside ASCII; within
ASCII the letters start an identifier, and the letters, the digits and the underscore continue one.
-/

namespace RuleMachine.Text

/-- XID_Start beyond ASCII. -/
def identifierStarts : CodePoints := .ofGaps
  "aa+1 a+1 4+1 5+17 1+1f 1+1ca 4+c e+5 7+1 1+1 81+5 1+2 3+3 1+1 6+1 1+3 1+1 1+14 1+53 1+8b 8+a6
  1+26 2+1 6+29 47+1b 4+4 2d+2b 23+2 1+63 1+1 f+2 7+2 a+3 2+1 10+1 1+1e 1d+59 b+1 18+21 9+2 4+1
  5+16 4+1 9+1 3+1 17+19 7+b 5+18 1+6 11+2a 3a+36 3+1 12+1 7+a f+10 4+8 2+2 2+16 1+7 1+1 3+4 3+1
  10+1 d+2 1+3 e+2 a+1 8+6 4+2 2+16 1+7 1+2 1+2 1+2 1f+4 1+1 13+3 10+9 1+3 1+16 1+7 1+2 1+5 3+1
  12+1 f+2 17+1 b+8 2+2 2+16 1+7 1+2 1+5 3+1 1e+2 1+3 f+1 11+1 1+6 3+3 1+4 3+2 1+1 1+2 3+2 3+3 3+c
  16+1 34+8 1+3 1+17 1+10 3+1 1a+3 2+1 2+2 1e+1 4+8 1+3 1+17 1+a 1+5 3+1 1f+2 1+2 f+2 11+9 1+3
  1+29 2+1 10+1 5+3 8+3 18+6 5+12 3+18 1+9 1+1 2+7 3a+30 1+1 d+7 3a+2 1+1 1+5 1+18 1+1 1+a 1+1 a+1
  2+5 1+1 15+4 20+1 3f+8 1+24 1b+5 73+2b 14+1 10+6 4+4 3+1 3+2 7+3 4+d c+1 11+26 1+1 5+1 2+2b
  1+14d 1+4 2+7 1+1 1+4 2+29 1+4 2+21 1+4 2+7 1+1 1+4 2+f 1+39 1+4 2+43 25+10 10+56 2+6 3+26c 2+11
  1+1a 5+4b 3+b 7+12 d+13 e+12 e+d 1+3 f+34 23+1 4+1 43+59 7+29 1+1 5+46 a+1f 31+1e 2+5 b+2c 4+1a
  36+17 9+35 52+1 5d+2f 11+8 36+1e d+2 a+2c 1a+24 29+3 a+24 2+b 5+2b 2+3 29+4 1+6 1+2 3+1 5+c0
  40+116 2+6 2+26 2+6 2+8 1+1 1+1 1+1 1+1f 2+35 1+7 1+1 3+3 1+7 3+4 2+6 4+d 5+3 1+7 74+1 d+1 10+d
  65+1 4+1 2+a 1+1 2+6 6+1 1+1 1+1 1+10 2+4 5+5 4+1 11+29 a77+e5 6+4 3+2 c+26 1+1 5+1 2+38 7+1
  10+17 9+7 1+7 1+7 1+7 1+7 1+7 1+7 1+7 226+3 19+9 7+5 2+5 4+56 6+3 1+5a 1+4 5+2b 1+5e 11+20 30+10
  200+19c0 40+568d 43+2e 2+10d 3+10 a+2 14+2f 10+1f 2+50 27+9 2+67 2+43 2+2 1+1 1+8 15+10 1+3 1+4
  1+17 1d+34 e+32 3e+6 3+1 1+2 b+1c a+17 19+1d 7+2f 1c+1 10+5 1+a a+5 1+29 17+3 1+8 14+17 3+1 3+32
  1+1 3+2 2+5 2+1 1+1 18+3 2+b 7+3 c+6 2+6 2+6 9+7 1+7 1+2b 1+e 6+73 1d+2ba4 c+17 4+31 2104+16e
  2+6a 26+7 c+5 5+1 1+a 1+d 1+5 1+1 1+2 1+2 1+6c 21+8b 6+da 12+40 2+36 28+a 77+1 1+1 3+1 1+1 1+1
  1+1 1+7e 24+1a 6+1a b+38 2+1f 3+6 2+6 2+6 2+3 23+c 1+1a 1+13 1+2 1+f 2+e 22+7b 45+35 10b+1d 3+31
  2f+20 d+1e 5+26 a+1e 2+24 4+8 1+5 2a+9e 12+24 4+24 4+28 8+34 c+b 1+f 1+7 1+2 1+b 1+f 1+7 1+2
  3+34 c+137 9+16 a+8 18+6 1+2a 1+9 45+6 2+1 1+2c 1+2 3+1 2+17 a+17 9+1f 41+13 1+2 a+16 a+1a 46+38
  6+2 40+1 f+4 1+3 1+1d 2a+1d 3+1d 23+8 1+1c 1b+36 a+16 a+13 d+12 6e+49 37+33 d+33 d+24 26+1c 9+17
  fa+2a 6+2 10+3 3b+1d a+1 8+16 2a+12 2e+15 1b+17 c+35 39+2 2+1 d+2d 20+19 1a+24 1d+1 2+1 8+23 3+1
  c+30 e+4 15+1 1+1 23+12 1+19 13+2 3f+7 1+1 1+4 1+f 1+a 7+2f 26+8 2+2 2+16 1+7 1+2 1+5 3+1 12+1
  c+5 1e+a 1+1 2+1 1+26 1+1 19+1 1+1 2c+35 12+4 14+3 1e+30 14+2 1+1 b8+2f 29+4 24+30 14+1 3b+2b
  d+1 47+1b 25+7 b9+2c 74+40 1f+8 2+1 2+8 1+2 1+18 f+1 1+1 5e+8 2+27 10+1 1+1 1c+1 a+28 7+1 15+1
  b+2e 13+1 12+49 c7+21 1f+9 1+25 11+1 31+1e 70+7 1+2 1+26 15+1 19+6 1+2 1+20 e+1 147+13 f+1 1+d
  1+22 7c+1 4f+39a 66+6f 11+c4 a4c+61 f+430 11+6 19+f9b 5+247 1ab9+1e 6e2+239 7+1f 11+4f 11+1e
  12+30 10+4 1f+15 5+13 1b0+2d d3+40 80+4b 5+1 42+d 40+2 1+1 1c+17f8 8+4d6 29+a 22e7+4 1+7 1+2
  1+123 f+1 1d+3 2+1 e+4 8+18c 904+6b 5+d 3+9 7+a 1766+55 1+47 1+2 2+1 2+2 2+4 1+c 1+1 1+7 1+41
  1+4 2+8 1+7 1+1c 1+4 1+5 1+1 3+7 1+154 2+19 1+19 1+1f 1+19 1+1f 1+19 1+1f 1+19 1+1f 1+19 1+8
  734+1f 6+6 105+3e 92+2d a+7 10+1 141+1e 12+2c 1e4+1c e4+1e 2+1 1ef+7 1+4 1+2 1+f 1+c5 3b+44 7+1
  4b4+4 1+1b 1+2 1+1 2+1 1+a 1+4 1+1 1+1 6+1 4+1 1+1 1+1 1+3 1+2 1+1 2+1 1+1 1+1 1+1 1+1 1+2 1+1
  2+4 1+7 1+4 1+4 1+1 1+a 1+11 5+3 1+5 1+11 1144+a6e0 20+103a 6+de 2+1682 e+1d31 f+26e 9a2+21e
  5e2+134b 5+1060"

/-- XID_Continue beyond ASCII. -/
def identifierContinues : CodePoints := .ofGaps
  "aa+1 a+1 1+1 2+1 5+17 1+1f 1+1ca 4+c e+5 7+1 1+1 11+75 1+2 3+3 1+1 6+5 1+1 1+14 1+53 1+8b 1+5
  2+a6 1+26 2+1 6+29 8+2d 1+1 1+2 1+2 1+1 8+1b 4+4 1d+b 5+4a 4+66 1+8 2+a 1+13 2+1 10+3b 2+65 e+36
  4+1 2+1 2+2e 12+1c 4+b 5+18 1+6 8+4b 1+81 2+a 1+13 1+8 2+2 2+16 1+7 1+1 3+4 2+9 2+2 2+4 8+1 4+2
  1+5 2+c a+1 1+1 2+3 1+6 4+2 2+16 1+7 1+2 1+2 1+2 2+1 1+5 4+2 2+3 3+1 7+4 1+1 7+10 b+3 1+9 1+3
  1+16 1+7 1+2 1+5 2+a 1+3 1+3 2+1 f+4 2+a 9+7 1+3 1+8 2+2 2+16 1+7 1+2 1+5 2+9 2+2 2+3 7+3 4+2
  1+5 2+a 1+1 10+2 1+6 3+3 1+4 3+2 1+1 1+2 3+2 3+3 3+c 4+5 3+3 1+4 2+1 6+1 e+a 10+d 1+3 1+17 1+10
  2+9 1+3 1+4 7+2 1+3 2+1 2+4 2+a 10+4 1+8 1+3 1+17 1+a 1+5 2+9 1+3 1+4 7+2 6+2 1+4 2+a 1+3 c+d
  1+3 1+33 1+3 1+5 5+4 7+5 2+a a+6 1+3 1+12 3+18 1+9 1+1 2+7 3+1 4+6 1+1 1+8 6+a 2+2 d+3a 5+f 1+a
  27+2 1+1 1+5 1+18 1+1 1+17 2+5 1+1 1+7 1+a 2+4 20+1 17+2 6+a b+1 1+1 1+1 4+a 1+24 4+14 1+12 1+24
  9+1 39+4a 6+4e 2+26 1+1 5+1 2+2b 1+14d 1+4 2+7 1+1 1+4 2+29 1+4 2+21 1+4 2+7 1+1 1+4 2+f 1+39
  1+4 2+43 2+3 9+9 e+10 10+56 2+6 3+26c 2+11 1+1a 5+4b 3+b 7+16 9+16 b+14 c+d 1+3 1+2 c+54 3+1 4+2
  2+a 21+3 1+b 6+59 7+2b 5+46 a+1f 1+c 4+c a+28 2+5 b+2c 4+1a 6+b 25+1c 4+3f 1+1d 2+b 6+a d+1 8+e
  1+10 31+4d 3+a 11+9 c+74 c+38 8+a 3+31 2+b 5+2b 2+3 10+3 1+27 5+216 2+6 2+26 2+6 2+8 1+1 1+1 1+1
  1+1f 2+35 1+7 1+1 3+3 1+7 3+4 2+6 4+d 5+3 1+7 f+2 31+2 13+1 1c+1 d+1 10+d 33+d 4+1 3+c 11+1 4+1
  2+a 1+1 2+6 6+1 1+1 1+1 1+10 2+4 5+5 4+1 11+29 a77+e5 6+9 c+26 1+1 5+1 2+38 7+1 f+18 9+7 1+7 1+7
  1+7 1+7 1+7 1+7 1+7 1+20 205+3 19+f 1+5 2+5 4+56 2+2 2+3 1+5f 5+2b 1+5e 11+20 30+10 200+19c0
  40+568d 43+2e 2+10d 3+1c 14+30 4+a 1+73 25+9 2+67 2+43 2+2 1+1 1+8 15+36 4+1 13+34 c+46 a+a 6+18
  3+1 1+31 2+24 c+1d 3+41 e+b 6+1f 1+37 9+e 2+a 6+17 3+49 18+3 2+10 2+5 a+6 2+6 2+6 9+7 1+7 1+2b
  1+e 6+7b 1+2 2+a 6+2ba4 c+17 4+31 2104+16e 2+6a 26+7 c+5 5+c 1+d 1+5 1+1 1+2 1+2 1+6c 21+8b 6+da
  12+40 2+36 28+a 6+10 10+10 3+2 18+3 21+1 1+1 3+1 1+1 1+1 1+1 1+7e 13+a 7+1a 4+1 1+1a a+5a 3+6
  2+6 2+6 2+3 23+c 1+1a 1+13 1+2 1+f 2+e 22+7b 45+35 88+1 82+1d 3+31 f+1 1f+20 d+1e 5+2b 5+1e 2+24
  4+8 1+5 2a+9e 2+a 6+24 4+24 4+28 8+34 c+b 1+f 1+7 1+2 1+b 1+f 1+7 1+2 3+34 c+137 9+16 a+8 18+6
  1+2a 1+9 45+6 2+1 1+2c 1+2 3+1 2+17 a+17 9+1f 41+13 1+2 a+16 a+1a 46+38 6+2 40+4 1+2 5+8 1+3
  1+1d 2+3 4+1 20+1d 3+1d 23+8 1+1e 19+36 a+16 a+13 d+12 6e+49 37+33 d+33 d+28 8+a 6+26 3+5 1+17
  fa+2a 1+2 3+2 10+3 37+21 a+1 8+21 1f+16 2a+15 1b+17 9+47 1f+10 9+3c 7+1 d+19 7+a 6+35 1+a 4+4
  8+24 2+1 9+45 4+4 1+d 1+1 23+12 1+25 6+4 3e+7 1+1 1+4 1+f 1+a 7+3b 5+a 6+4 1+8 2+2 2+16 1+7 1+2
  1+5 1+a 2+2 2+3 2+1 6+1 5+7 2+7 3+5 b+a 1+1 2+1 1+26 1+a 1+1 2+1 1+4 1+8 d+2 1d+4b 5+a 4+4 1e+46
  1+1 8+a a6+36 2+9 17+6 22+41 3+1 b+a 26+39 7+a 6+14 1c+1b 2+f 4+a 6+7 b9+3b 65+4a 15+8 2+1 2+8
  1+2 1+1e 1+2 2+9 c+a 46+8 2+2e 2+8 1+2 1b+3f 8+1 8+4a 3+1 12+49 c7+21 f+a 6+9 1+2d 1+9 f+a 18+1e
  2+16 1+e 49+7 1+2 1+2c 3+1 1+2 1+9 8+a 6+6 1+2 1+25 1+2 1+6 7+a 136+17 9+11 1+29 3+5 d+b 55+1
  4f+39a 66+6f 11+c4 a4c+61 f+430 10+16 a+f9b 5+247 1ab9+3a 6c6+239 7+1f 1+a 6+4f 1+a 6+1e 2+5
  b+37 9+4 c+a 9+15 5+13 1b0+2d 3+a c6+40 80+4b 4+39 7+11 40+2 1+2 b+2 e+17f8 8+4d6 29+a 22e7+4
  1+7 1+2 1+123 f+1 1d+3 2+1 e+4 8+18c 904+6b 5+d 3+9 7+a 3+2 1051+a 206+2e 2+17 21e+5 3+6 8+8 2+7
  1e+4 94+3 1bb+55 1+47 1+2 2+1 2+2 2+4 1+c 1+1 1+7 1+41 1+4 2+8 1+7 1+1c 1+4 1+5 1+1 3+7 1+154
  2+19 1+19 1+1f 1+19 1+1f 1+19 1+1f 1+19 1+1f 1+19 1+8 2+32 200+37 4+32 8+1 e+1 16+5 1+f 450+1f
  6+6 d5+7 1+11 2+7 1+2 1+5 5+3e 21+1 70+2d 3+e 2+a 4+1 141+1f 11+3a 1d6+2a d6+2b 1e5+7 1+4 1+2
  1+f 1+c5 b+7 29+4c 4+a 4a6+4 1+1b 1+2 1+1 2+1 1+a 1+4 1+1 1+1 6+1 4+1 1+1 1+1 1+3 1+2 1+1 2+1
  1+1 1+1 1+1 1+1 1+2 1+1 2+4 1+7 1+4 1+4 1+1 1+a 1+11 5+3 1+5 1+11 d34+a 406+a6e0 20+103a 6+de
  2+1682 e+1d31 f+26e 9a2+21e 5e2+134b 5+1060 add50+f0"

/-- A character with the property XID_Start. -/
def isIdentifierStart (c : Char) : Bool :=
  if c.toNat < 128 then c.isAlpha else identifierStarts.contains c

/-- A character with the property XID_Continue. -/
def isIdentifierContinue (c : Char) : Bool :=
  if c.toNat < 128 then c.isAlphanum || c = '_' else identifierContinues.contains c

end RuleMachine.Text
