/-!
# Digits

The digits of a base up to sixteen, the numbers that they denote, and characters by their code.
-/

namespace RuleMachine.Text

/-- The value of a digit of a base; a letter counts in both cases. -/
def digit? (base : Nat) (c : Char) : Option Nat :=
  let value :=
    if '0' ≤ c ∧ c ≤ '9' then some (c.toNat - '0'.toNat)
    else if 'a' ≤ c ∧ c ≤ 'f' then some (c.toNat - 'a'.toNat + 10)
    else if 'A' ≤ c ∧ c ≤ 'F' then some (c.toNat - 'A'.toNat + 10)
    else none
  value.filter (· < base)

/-- The number that one or more digits denote, the most significant one first. -/
def natural? (base : Nat) : List Char → Option Nat
  | [] => none
  | cs => cs.foldlM (fun n c => (digit? base c).map (base * n + ·)) 0

/-- The character whose code is written in hexadecimal. -/
def hexChar? (cs : List Char) : Option Char := do
  let n ← natural? 16 cs
  if n.isValidChar then some (Char.ofNat n) else none

end RuleMachine.Text
