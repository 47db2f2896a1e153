/-!
# Writing doubles in decimal

A finite double is a whole number of some power of two (`Binary.ofFloat`). The reals that round to
it form an interval, and its shortest decimal is the one of the coarsest decimal grid that has a
point in the interval (`Shortest.digits`): of the two grid points around the double the one nearer
to it, the upper one if both are equally near.
-/

namespace RuleMachine.Decimal

/-- The number `mantissa · 2 ^ exponent`. `evenGap` is false for a power of two whose lower
neighbour is only half as far away as its upper one. -/
structure Binary where
  mantissa : Nat
  exponent : Int
  evenGap : Bool
  deriving DecidableEq, Repr

/-- The size of a finite double, its sign left out. -/
def Binary.ofFloat (x : Float) : Binary :=
  let bits : Nat := x.toBits.toNat
  let field : Nat := bits / Nat.pow 2 52 % Nat.pow 2 11
  let fraction : Nat := bits % Nat.pow 2 52
  if field = 0 then ⟨fraction, -1074, true⟩
  else ⟨fraction + Nat.pow 2 52, (field : Int) - 1075, fraction ≠ 0 || field = 1⟩

/-- The sign bit of a double. -/
def isNegative (x : Float) : Bool := x.toBits.toNat / Nat.pow 2 63 = 1

namespace Binary

/-- Whether the number is whole. -/
def isWhole (b : Binary) : Bool :=
  0 ≤ b.exponent || b.mantissa % Nat.pow 2 b.exponent.natAbs = 0

/-- The number rounded towards zero. -/
def floor (b : Binary) : Nat :=
  if 0 ≤ b.exponent then b.mantissa * Nat.pow 2 b.exponent.toNat
  else b.mantissa / Nat.pow 2 b.exponent.natAbs

end Binary

/-- The interval of the reals that round to a double, and the double in it, as fractions with one
denominator. -/
structure Interval where
  low : Nat
  value : Nat
  high : Nat
  denominator : Nat
  /-- Whether the ends belong to the interval. -/
  closed : Bool

/-- The ends lie half-way to the neighbours; they belong to an even mantissa. -/
def Binary.interval (b : Binary) : Interval :=
  let unit := if 2 ≤ b.exponent then Nat.pow 2 (b.exponent - 2).toNat else 1
  { low := (4 * b.mantissa - (if b.evenGap then 2 else 1)) * unit
    value := 4 * b.mantissa * unit
    high := (4 * b.mantissa + 2) * unit
    denominator := if 2 ≤ b.exponent then 1 else Nat.pow 2 (2 - b.exponent).toNat
    closed := b.mantissa % 2 = 0 }

namespace Interval

/-- The power of ten just above the value: the least `k` with value below `10 ^ k`. -/
def magnitude (i : Interval) : Int :=
  if i.denominator ≤ i.value then (Nat.toDigits 10 (i.value / i.denominator)).length
  else 1 - (Nat.toDigits 10 ((i.denominator - 1) / i.value)).length

/-- The interval in units of `10 ^ exponent`. -/
def inUnits (i : Interval) (exponent : Int) : Interval :=
  if 0 ≤ exponent then { i with denominator := i.denominator * Nat.pow 10 exponent.toNat }
  else
    let scale := Nat.pow 10 exponent.natAbs
    { i with low := i.low * scale, value := i.value * scale, high := i.high * scale }

/-- Whether the whole number `n` lies in the interval. -/
def contains (i : Interval) (n : Nat) : Bool :=
  let point := n * i.denominator
  if i.closed then i.low ≤ point && point ≤ i.high else i.low < point && point < i.high

/-- The whole number in the interval next to its value: of the two neighbours the nearer one, the
upper one if they are equally near. -/
def wholeNumber? (i : Interval) : Option Nat :=
  let below := i.value / i.denominator
  match i.contains below, i.contains (below + 1) with
  | true, true => if 2 * (i.value % i.denominator) < i.denominator then some below
    else some (below + 1)
  | true, false => some below
  | false, true => some (below + 1)
  | false, false => none

end Interval

/-- A whole number times a power of ten. -/
structure Scaled where
  digits : Nat
  exponent : Int
  deriving DecidableEq, Repr

namespace Shortest

/-- The first grid with a point in the interval, from `places` places on, `fuel` grids at most. -/
def search (i : Interval) (places : Nat) : Nat → Option Scaled
  | 0 => none
  | fuel + 1 =>
    let exponent := i.magnitude - places
    match (i.inUnits exponent).wholeNumber? with
    | some n => some ⟨n, exponent⟩
    | none => search i (places + 1) fuel

/-- The shortest decimal that reads back as the number; seventeen places always do. -/
def digits (b : Binary) : Scaled := (search b.interval 1 17).getD ⟨0, 0⟩

end Shortest

/-- Removes zeros at the end of a fraction, and the point if nothing follows it. -/
def trimFraction (cs : List Char) : List Char := (cs.reverse.dropWhile (· = '0')).reverse

/-- A scaled number written with a decimal point and no exponent. -/
def Scaled.positional (s : Scaled) : String :=
  let ds := Nat.toDigits 10 s.digits
  if 0 ≤ s.exponent then String.ofList (ds ++ List.replicate s.exponent.toNat '0')
  else
    let places := s.exponent.natAbs
    let padded := List.replicate (places + 1 - ds.length) '0' ++ ds
    let whole := padded.take (padded.length - places)
    let fraction := trimFraction (padded.drop (padded.length - places))
    String.ofList (if fraction.isEmpty then whole else whole ++ '.' :: fraction)

/-- The text of a number. Whole numbers below `10 ^ 21` are written in full, all others with the
fewest digits that read back, always positionally; zero has no sign. -/
def display (x : Float) : String :=
  if x != x then "NaN"
  else
    let b := Binary.ofFloat x
    let size :=
      if b.exponent = 972 then "Infinity"
      else if b.mantissa = 0 then "0"
      else if b.isWhole ∧ b.floor < Nat.pow 10 21 then String.ofList (Nat.toDigits 10 b.floor)
      else (Shortest.digits b).positional
    if isNegative x ∧ b.mantissa ≠ 0 then "-" ++ size else size

end RuleMachine.Decimal
