/-!
# Reading decimal numbers

A decimal numeral is read as the double nearest to it, a tie going to the even neighbour. The
numerals are an optional sign, digits with an optional point among them or at either end, and an
optional exponent; the words for infinity and for no number are read as well.
-/

namespace RuleMachine.Decimal

def digitValue (c : Char) : Nat := c.toNat - '0'.toNat

/-- The number that a list of digits denotes, most significant digit first. -/
def ofDigits (cs : List Char) : Nat := cs.foldl (fun n c => 10 * n + digitValue c) 0

/-- The double nearest to `mantissa · 10 ^ exponent`. Numbers of more than 310 places are
infinite, numbers below the 400th place are zero, so that no huge power is formed. -/
def nearest (mantissa : Nat) (exponent : Int) : Float :=
  let places : Int := (Nat.toDigits 10 mantissa).length + exponent
  if mantissa = 0 then 0
  else if places > 310 then 1.0 / 0.0
  else if places < -400 then 0
  else .ofScientific mantissa (exponent < 0) exponent.natAbs

def infinity : Float := 1.0 / 0.0

def notANumber : Float := 0.0 / 0.0

/-- The exponent part of a numeral, empty or `e` with an integer. -/
def readExponent : List Char → Option Int
  | [] => some 0
  | e :: rest =>
    if e = 'e' ∨ e = 'E' then
      let (negative, digits) := match rest with
        | '-' :: ds => (true, ds)
        | '+' :: ds => (false, ds)
        | ds => (false, ds)
      if digits.isEmpty || !digits.all Char.isDigit then none
      else if negative then some (-(ofDigits digits : Int)) else some (ofDigits digits : Int)
    else none

/-- The value of an unsigned numeral. -/
def readUnsigned (cs : List Char) : Option Float :=
  let whole := cs.takeWhile Char.isDigit
  let (fraction, rest) := match cs.dropWhile Char.isDigit with
    | '.' :: rest => (rest.takeWhile Char.isDigit, rest.dropWhile Char.isDigit)
    | rest => ([], rest)
  if whole.isEmpty && fraction.isEmpty then
    let word := cs.map Char.toLower
    if word = "inf".toList ∨ word = "infinity".toList then some infinity
    else if word = "nan".toList then some notANumber
    else none
  else do
    let exponent ← readExponent rest
    some (nearest (ofDigits (whole ++ fraction)) (exponent - fraction.length))

/-- The value of a numeral, or `none` for any other text. -/
def read? : List Char → Option Float
  | '-' :: cs => (readUnsigned cs).map (- ·)
  | '+' :: cs => readUnsigned cs
  | cs => readUnsigned cs

end RuleMachine.Decimal
