import Mathlib
import RuleMachine.Value.Equality

/-!
# Equalities either way round

No equality of values depends on which value stands first. For numbers this holds although no-number
is equal to nothing, and zero to its negative.
-/

namespace RuleMachine.Value

theorem number_beq_comm (a b : Float) : (a == b) = (b == a) := by
  rw [Bool.eq_iff_iff, Float.beq_iff_ne_nan_and_eq, Float.beq_iff_ne_nan_and_eq]
  grind

theorem same_comm (v w : Value) : same v w = same w v := by
  cases v <;> cases w <;> first | rfl | exact number_beq_comm _ _ | exact BEq.comm

mutual

theorem structuralEq_comm : ∀ v w : Value, structuralEq v w = structuralEq w v
  | list i a, list j b => by
    rw [structuralEq, structuralEq, structuralItems_comm a b, BEq.comm]
  | record i a, record j b => by
    rw [structuralEq, structuralEq, structuralFields_comm a b, BEq.comm]
  | undefined, w | null, w | bool _, w | number _, w | string _, w | callable _, w => by
    cases w <;> simp only [structuralEq, same_comm]
  | v, undefined | v, null | v, bool _ | v, number _ | v, string _ | v, callable _ => by
    cases v <;> simp only [structuralEq, same_comm]
  | list .., record .. | record .., list .. => by
    simp only [structuralEq, same_comm]

theorem structuralItems_comm : ∀ vs ws : List Value, structuralItems vs ws = structuralItems ws vs
  | [], [] => rfl
  | v :: vs, w :: ws => by
    rw [structuralItems, structuralItems, structuralEq_comm v w, structuralItems_comm vs ws]
  | [], w :: ws => rfl
  | v :: vs, [] => rfl

theorem structuralFields_comm : ∀ vs ws : List (String × Value),
    structuralFields vs ws = structuralFields ws vs
  | [], [] => rfl
  | (k, v) :: vs, (l, w) :: ws => by
    rw [structuralFields, structuralFields, structuralEq_comm v w, structuralFields_comm vs ws,
      BEq.comm (a := k)]
  | [], (l, w) :: ws => rfl
  | (k, v) :: vs, [] => rfl

end

end RuleMachine.Value
