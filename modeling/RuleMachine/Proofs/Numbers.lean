import RuleMachine.Decimal.Nearest
import RuleMachine.Proofs.Doubles

/-!
# Doubles that are numbers

Sums with a finite number stay numbers, and so do products with a number that is neither infinite
nor zero, and quotients by one. So a decimal is rounded to a number, however long it is
(`Decimal.isNaN_nearest`).
-/

namespace RuleMachine

open Float.Model Float.Model.UnpackedFloat

namespace Double

/-- The double is neither infinite nor zero, and it is a number. -/
def isProper (x : Float) : Bool :=
  match x.toModel.unpack with
  | .finite .. => true
  | _ => false

variable {x y : Float}

/-! ## Packing -/

theorem isNaN_packComponents {s : Sign} {field : BitVec 11} (apart : field ≠ -1#11)
    (m : BitVec 52) :
    (UnpackedFloat.unpack .binary64 (packComponents .binary64 s field m)).isNaN = false := by
  simp only [UnpackedFloat.unpack, unpackExponent_packComponents, unpackMantissa_packComponents,
    unpackSign_packComponents]
  rw [if_neg apart]
  split
  · split <;> rfl
  · rfl

/-- A number is packed as a number. -/
theorem isNaN_pack {u : UnpackedFloat} (number : u.isNaN = false) :
    (Float.Model.pack u).isNaN = false := by
  change (UnpackedFloat.unpack .binary64 (UnpackedFloat.pack .binary64 u)).isNaN = false
  cases u with
  | notANumber => cases number
  | infinity s => cases s <;> rfl
  | zero s => cases s <;> rfl
  | finite s m e pos =>
    unfold UnpackedFloat.pack
    dsimp only
    split
    · cases s <;> rfl
    · next room =>
      split
      · refine isNaN_packComponents (fun full => room ?_) _
        generalize (e + (Format.binary64.exponentBias : Int) + _).toNat = b at full ⊢
        have field : b % 2 ^ 11 = 2047 :=
          (BitVec.toNat_ofNat ..).symm.trans (congrArg BitVec.toNat full)
        change 2 ^ 11 ≤ b + 1
        have le := Nat.mod_le b (2 ^ 11)
        omega
      · exact isNaN_packComponents (by decide) _

/-! ## Arithmetic -/

section Unpacked

variable {u v : UnpackedFloat} (spec : Format)

theorem isNaN_roundWithAccuracy (s : Sign) (m : Nat) (e : Int) (a : Accuracy) :
    (roundWithAccuracy spec s m e a).isNaN = false := by
  unfold roundWithAccuracy
  dsimp only
  split <;> rfl

theorem isNaN_normalize (m e : Int) (s : Sign) :
    (UnpackedFloat.normalize spec m e s).isNaN = false := by
  unfold UnpackedFloat.normalize
  split
  · exact isNaN_roundWithAccuracy ..
  · rfl
  · exact isNaN_roundWithAccuracy ..

theorem isNaN_unpackedAdd (number : u.isNaN = false) (finite : v.isFinite) :
    (u.add spec v).isNaN = false := by
  cases v with
  | notANumber | infinity => cases finite
  | zero t =>
    cases u with
    | notANumber => cases number
    | infinity | finite => rfl
    | zero s => cases s <;> cases t <;> rfl
  | finite =>
    cases u with
    | notANumber => cases number
    | infinity | zero => rfl
    | finite => exact isNaN_normalize ..

theorem isNaN_unpackedMul (number : u.isNaN = false) (s : Sign) {m : Nat} (e : Int) (pos : 0 < m) :
    (u.mul spec (.finite s m e pos)).isNaN = false := by
  cases u with
  | notANumber => cases number
  | infinity | zero => rfl
  | finite => exact isNaN_roundWithAccuracy ..

theorem isNaN_unpackedDiv (number : u.isNaN = false) (s : Sign) {m : Nat} (e : Int) (pos : 0 < m) :
    (u.div spec (.finite s m e pos)).isNaN = false := by
  cases u with
  | notANumber => cases number
  | infinity | zero => rfl
  | finite => exact isNaN_roundWithAccuracy ..

end Unpacked

theorem isNaN_add (number : x.isNaN = false) (finite : y.isFinite) : (x + y).isNaN = false :=
  isNaN_pack (isNaN_unpackedAdd _ number finite)

theorem exists_of_isProper (proper : isProper y) :
    ∃ s m e, ∃ pos : 0 < m, y.toModel.unpack = .finite s m e pos := by
  unfold isProper at proper
  split at proper
  · next s m e pos unpacked => exact ⟨s, m, e, pos, unpacked⟩
  · cases proper

theorem isNaN_mul (number : x.isNaN = false) (proper : isProper y) : (x * y).isNaN = false := by
  obtain ⟨s, m, e, pos, unpacked⟩ := exists_of_isProper proper
  refine isNaN_pack ?_
  rw [unpacked]
  exact isNaN_unpackedMul _ number s e pos

theorem isNaN_div (number : x.isNaN = false) (proper : isProper y) : (x / y).isNaN = false := by
  obtain ⟨s, m, e, pos, unpacked⟩ := exists_of_isProper proper
  refine isNaN_pack ?_
  rw [unpacked]
  exact isNaN_unpackedDiv _ number s e pos

theorem isNaN_neg (number : x.isNaN = false) : (-x).isNaN = false := by
  refine isNaN_pack ?_
  change x.toModel.unpack.isNaN = false at number
  cases unpacked : x.toModel.unpack with
  | notANumber => simp [unpacked, UnpackedFloat.isNaN] at number
  | infinity | zero | finite => rfl

theorem isNaN_of_isFinite (finite : x.isFinite) : x.isNaN = false := by
  change x.toModel.unpack.isFinite at finite
  change x.toModel.unpack.isNaN = false
  cases unpacked : x.toModel.unpack <;> simp_all [UnpackedFloat.isNaN, UnpackedFloat.isFinite]

/-! ## Decimals -/

theorem isProper_powerOfTen :
    Float.exactlyRepresentablePowersOfTen.all isProper := by
  decide +kernel

theorem isFinite_toFloat (n : UInt64) : n.toFloat.isFinite := by
  have small : (n.toNat : ℤ).natAbs < 2 ^ 64 := n.toNat_lt
  exact isFinite_of_nearest (nearest_ofInt small)

theorem isNaN_unpackedOfScientific (spec : Format) (m : Nat) (e : Int) :
    (UnpackedFloat.ofScientific spec m e).isNaN = false := by
  unfold UnpackedFloat.ofScientific
  split
  · rfl
  split
  · rfl
  split
  · rfl
  split
  · exact isNaN_roundWithAccuracy ..
  · exact isNaN_roundWithAccuracy ..

theorem isNaN_ofScientific (m : Nat) (s : Bool) (e : Nat) :
    (Float.ofScientific m s e).isNaN = false := by
  unfold Float.ofScientific
  split
  · next small =>
    have number : m.toUInt64.toFloat.isNaN = false := isNaN_of_isFinite (isFinite_toFloat _)
    have proper := Array.all_eq_true.mp isProper_powerOfTen e (Nat.lt_succ_of_le small.2)
    dsimp only
    split
    · exact isNaN_div number proper
    · exact isNaN_mul number proper
  · exact isNaN_pack (isNaN_unpackedOfScientific ..)

end Double

namespace Decimal

open Double

theorem isNaN_nearest (m : Nat) (e : Int) : (nearest m e).isNaN = false := by
  unfold nearest
  dsimp only
  split
  · rfl
  split
  · rfl
  split
  · rfl
  · exact isNaN_ofScientific ..

end Decimal

end RuleMachine
