import RuleMachine.Decimal.Shortest

/-!
# Remainder of doubles

The remainder of a division rounded towards zero. It has the sign of the dividend and is exact:
both numbers are whole multiples of one power of two, and so is the remainder.
-/

namespace RuleMachine.Decimal

/-- The double `n · 2 ^ exponent`, exact when `n` has at most 53 binary digits. -/
def scaleExact (n : Nat) (exponent : Int) : Float := (Float.ofNat n).scaleB exponent

/-- The number `x - y · t` for the quotient `t` of `x` and `y` rounded towards zero. There is no
remainder of an infinite number, or by zero. -/
def remainder (x y : Float) : Float :=
  let a := Binary.ofFloat x
  let b := Binary.ofFloat y
  if x != x ∨ y != y ∨ a.exponent = 972 ∨ b.mantissa = 0 then 0.0 / 0.0
  else if b.exponent = 972 then x
  else
    let unit := min a.exponent b.exponent
    let dividend := a.mantissa * Nat.pow 2 (a.exponent - unit).toNat
    let divisor := b.mantissa * Nat.pow 2 (b.exponent - unit).toNat
    let size := scaleExact (dividend % divisor) unit
    if isNegative x then -size else size

end RuleMachine.Decimal
