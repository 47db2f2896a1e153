import Mathlib

/-!
# Integers as doubles

A double that is finite stands for an exact number (`Double.value?`). An integer that is made a
double loses the bits that do not fit; what is left is rounded by what is known about the bits that
were lost (`Keeps.round`). So no double is nearer to the integer than the one that is made of it.
-/

namespace RuleMachine

open Float.Model Float.Model.UnpackedFloat

/-! ## Bits that are lost -/

/-- What a mantissa and the two bits beside it say about the number that they were made of: whether
it is the mantissa, or below, at or above the middle of it and the next one. -/
def Keeps (em : ExtendedMantissa) (x : ℚ) : Prop :=
  match em.roundBit, em.stickyBit with
  | false, false => x = em.mantissa
  | false, true => em.mantissa < x ∧ x < em.mantissa + 1 / 2
  | true, false => x = em.mantissa + 1 / 2
  | true, true => em.mantissa + 1 / 2 < x ∧ x < em.mantissa + 1

namespace Keeps

variable {em : ExtendedMantissa} {x : ℚ}

theorem start (m : Nat) : Keeps (.ofMantissaAndAccuracy m .exact) m := rfl

theorem shiftRightOne (keeps : Keeps em x) : Keeps em.shiftRightOne (x / 2) := by
  obtain ⟨m, roundBit, stickyBit⟩ := em
  have halves : ((m / 2 : ℕ) : ℚ) * 2 + ((m % 2 : ℕ) : ℚ) = m := by
    exact_mod_cast Nat.div_add_mod' m 2
  rcases Nat.mod_two_eq_zero_or_one m with even | odd
  · rw [even] at halves
    cases roundBit <;> cases stickyBit <;>
      simp_all only [Keeps, ExtendedMantissa.shiftRightOne] <;> norm_num at * <;> grind
  · rw [odd] at halves
    cases roundBit <;> cases stickyBit <;>
      simp_all only [Keeps, ExtendedMantissa.shiftRightOne] <;> norm_num at * <;> grind

theorem shiftRight (keeps : Keeps em x) (t : Nat) : Keeps (em >>> t) (x / 2 ^ t) := by
  induction t with
  | zero => simpa [HShiftRight.hShiftRight, Nat.repeat] using keeps
  | succ t ih =>
    rw [pow_succ, ← div_div]
    exact ih.shiftRightOne

/-- Rounding goes to a nearest integer. -/
theorem round (keeps : Keeps em x) : |em.roundedMantissa - x| ≤ 1 / 2 := by
  obtain ⟨m, roundBit, stickyBit⟩ := em
  have bit : ((m % 2 : ℕ) : ℚ) = 0 ∨ ((m % 2 : ℕ) : ℚ) = 1 := by
    rcases Nat.mod_two_eq_zero_or_one m with even | odd
    · exact .inl (by rw [even]; rfl)
    · exact .inr (by rw [odd]; rfl)
  rw [abs_le]
  cases roundBit <;> cases stickyBit <;>
    simp only [Keeps, ExtendedMantissa.roundedMantissa, ExtendedMantissa.accuracy,
      Accuracy.roundToNearestEven] at keeps ⊢ <;> push_cast <;> grind

end Keeps

/-! ## Rounding natural numbers -/

/-- A mantissa of 53 bits is not shifted. -/
theorem shiftToTargetExponent_of_lt {m : Nat} {e : Int} (small : m < 2 ^ 53) (high : -1074 ≤ e) :
    shiftToTargetExponent .binary64 m e .exact = (⟨m, false, false⟩, e) := by
  have bits : m.log2 ≤ 52 := by
    by_cases zero : m = 0
    · simp [zero]
    · exact Nat.le_of_lt_succ ((Nat.log2_lt zero).mpr small)
  have target : Format.binary64.targetExponent (totalExponent m e) ≤ e := by
    simp only [Format.targetExponent, totalExponent, Format.mantissaBits, Format.minExponent]
    norm_num
    omega
  have none : (Format.binary64.targetExponent (totalExponent m e) - e).toNat = 0 := by omega
  simp [shiftToTargetExponent, shiftToExponent, none, HShiftRight.hShiftRight, Nat.repeat,
    ExtendedMantissa.ofMantissaAndAccuracy]

/-- One that is rounded up to 54 bits is shifted once. -/
theorem shiftToTargetExponent_of_eq {e : Int} (high : -1074 ≤ e) :
    shiftToTargetExponent .binary64 (2 ^ 53) e .exact = (⟨2 ^ 52, false, false⟩, e + 1) := by
  have target : Format.binary64.targetExponent (totalExponent (2 ^ 53) e) = e + 1 := by
    simp only [Format.targetExponent, totalExponent, Nat.log2_two_pow, Format.mantissaBits,
      Format.minExponent]
    norm_num
    omega
  unfold shiftToTargetExponent
  rw [target]
  simp [shiftToExponent, HShiftRight.hShiftRight, Nat.repeat,
    ExtendedMantissa.ofMantissaAndAccuracy, ExtendedMantissa.shiftRightOne]

/-- `v` is `z`, or a multiple of a power of two next to `z`, where `z` has 53 bits more than the
power. -/
def Rounded (z : Nat) (v : ℚ) : Prop :=
  v = z ∨ ∃ q t : Nat, v = q * 2 ^ t ∧ 2 ^ (52 + t) ≤ z ∧ |(q : ℚ) - z / 2 ^ t| ≤ 1 / 2

theorem roundWithAccuracy_of_shift (sign : Sign) {m : Nat} {e e₁ : Int} {em : ExtendedMantissa}
    (first : shiftToTargetExponent .binary64 m e .exact = (em, e₁)) (high : -1074 ≤ e₁)
    (low : 2 ^ 52 ≤ em.roundedMantissa) (le : em.roundedMantissa ≤ 2 ^ 53) :
    ∃ m' e', ∃ h : 0 < m', roundWithAccuracy .binary64 sign m e .exact = .finite sign m' e' h ∧
      m'.log2 = 52 ∧ e₁ ≤ e' ∧ e' ≤ e₁ + 1 ∧
      (m' * 2 ^ e' : ℚ) = em.roundedMantissa * 2 ^ e₁ := by
  rw [roundWithAccuracy, first]
  dsimp only
  generalize em.roundedMantissa = r at low le
  rcases Nat.lt_or_eq_of_le le with small | rfl
  · have pos : r ≠ 0 := by omega
    rw [shiftToTargetExponent_of_lt small high]
    refine ⟨r, e₁, by omega, dif_neg pos, ?_, Int.le_refl _, by omega, rfl⟩
    exact (Nat.log2_eq_iff pos).mpr ⟨low, small⟩
  · rw [shiftToTargetExponent_of_eq high]
    refine ⟨2 ^ 52, e₁ + 1, by norm_num, dif_neg (by norm_num), Nat.log2_two_pow, by omega,
      Int.le_refl _, ?_⟩
    rw [zpow_add₀ two_ne_zero]
    push_cast
    ring

/-- A natural number of 64 bits gets a mantissa of 53 bits. -/
theorem round_natCast (sign : Sign) {z : Nat} (pos : 0 < z) (small : z < 2 ^ 64) :
    ∃ m e, ∃ h : 0 < m, UnpackedFloat.round .binary64 sign z 0 = .finite sign m e h ∧
      m.log2 = 52 ∧ -52 ≤ e ∧ e ≤ 12 ∧ Rounded z (m * 2 ^ e) := by
  have bits : z.log2 < 64 := (Nat.log2_lt pos.ne').mpr small
  have low : 2 ^ z.log2 ≤ z := Nat.log2_self_le pos.ne'
  have high : z < 2 ^ (z.log2 + 1) := Nat.lt_log2_self
  have target : Format.binary64.targetExponent (totalExponent z 0) = (z.log2 : Int) - 52 := by
    simp only [Format.targetExponent, totalExponent, Format.mantissaBits, Format.minExponent]
    norm_num
    omega
  rw [UnpackedFloat.round, target]
  dsimp only
  rcases Nat.le_total z.log2 52 with short | long
  · -- The number is written with more bits, and none are lost.
    obtain ⟨t, split⟩ := Nat.exists_eq_add_of_le short
    have written : decreaseExponent z 0 ((z.log2 : Int) - 52) = (z * 2 ^ t, -(t : Int)) := by
      have amount : (0 - ((z.log2 : Int) - 52)).toNat = t := by omega
      rw [decreaseExponent, amount, Nat.shiftLeft_eq, Int.zero_sub]
    have lower : 2 ^ 52 ≤ z * 2 ^ t := by
      rw [split, pow_add]
      exact Nat.mul_le_mul_right _ low
    have upper : z * 2 ^ t < 2 ^ 53 := by
      have whole : 2 ^ (z.log2 + 1) * 2 ^ t = 2 ^ 53 := by
        rw [← pow_add]
        congr 1
        omega
      exact whole ▸ Nat.mul_lt_mul_of_pos_right high (Nat.two_pow_pos t)
    have first := shiftToTargetExponent_of_lt upper (e := -(t : Int)) (by omega)
    obtain ⟨m, e, h, made, mantissa, eLow, eHigh, value⟩ :=
      roundWithAccuracy_of_shift sign first (by omega) lower (Nat.le_of_lt upper)
    rw [written]
    refine ⟨m, e, h, made, mantissa, by omega, by omega, .inl ?_⟩
    have kept : ExtendedMantissa.roundedMantissa ⟨z * 2 ^ t, false, false⟩ = z * 2 ^ t := rfl
    rw [value, kept, zpow_neg, zpow_natCast]
    push_cast
    field_simp
  · -- The last bits are lost.
    obtain ⟨t, split⟩ := Nat.exists_eq_add_of_le long
    have written : decreaseExponent z 0 ((z.log2 : Int) - 52) = (z, 0) := by
      have amount : (0 - ((z.log2 : Int) - 52)).toNat = 0 := by omega
      rw [decreaseExponent, amount]
      rfl
    let em := ExtendedMantissa.ofMantissaAndAccuracy z .exact >>> t
    have first : shiftToTargetExponent .binary64 z 0 .exact = (em, (t : Int)) := by
      have amount : ((z.log2 : Int) - 52 - 0).toNat = t := by omega
      rw [shiftToTargetExponent, target, shiftToExponent, amount, Int.zero_add]
    have near : |(em.roundedMantissa : ℚ) - z / 2 ^ t| ≤ 1 / 2 :=
      ((Keeps.start z).shiftRight t).round
    have room : (0 : ℚ) < 2 ^ t := by positivity
    have lower : 2 ^ (52 + t) ≤ z := split ▸ low
    have least : (2 ^ 52 : ℚ) ≤ z / 2 ^ t := by
      rw [le_div_iff₀ room, ← pow_add]
      exact_mod_cast lower
    have most : z / 2 ^ t < (2 ^ 53 : ℚ) := by
      rw [split, Nat.add_right_comm] at high
      rw [div_lt_iff₀ room, ← pow_add]
      exact_mod_cast high
    obtain ⟨below, above⟩ := abs_le.mp near
    have atLeast : 2 ^ 52 ≤ em.roundedMantissa := by
      have : (2 ^ 52 : ℚ) < em.roundedMantissa + 1 := by linarith
      exact Nat.le_of_lt_succ (by exact_mod_cast this)
    have atMost : em.roundedMantissa ≤ 2 ^ 53 := by
      have : (em.roundedMantissa : ℚ) < 2 ^ 53 + 1 := by linarith
      exact Nat.le_of_lt_succ (by exact_mod_cast this)
    obtain ⟨m, e, h, made, mantissa, eLow, eHigh, value⟩ :=
      roundWithAccuracy_of_shift sign first (by omega) atLeast atMost
    rw [written]
    have rounded : (m * 2 ^ e : ℚ) = em.roundedMantissa * 2 ^ t := by rw [value, zpow_natCast]
    exact ⟨m, e, h, made, mantissa, by omega, by omega, .inr ⟨_, t, rounded, lower, near⟩⟩

/-! ## The numbers of doubles -/

namespace Double

/-- The number that a double stands for, if it is finite. -/
def unpackedValue? : UnpackedFloat → Option ℚ
  | .zero _ => some 0
  | .finite s m e _ => some (s.apply m * 2 ^ e)
  | .infinity _ | .notANumber => none

/-- The number that a double stands for, if it is finite. -/
def value? (x : Float) : Option ℚ :=
  unpackedValue? x.toModel.unpack

theorem value?_isSome (x : Float) : (value? x).isSome = x.isFinite := by
  have spelled : x.isFinite = x.toModel.unpack.isFinite := rfl
  rw [value?, spelled]
  cases x.toModel.unpack <;> rfl

/-- A number with 53 bits before a power of two. -/
def Short (r : ℚ) : Prop :=
  ∃ k e : ℤ, |k| < 2 ^ 53 ∧ r = k * 2 ^ e

theorem mantissa_lt {b : BitVec Format.binary64.numBits} {s : Sign} {m : Nat} {e : Int} {h : 0 < m}
    (read : UnpackedFloat.unpack .binary64 b = .finite s m e h) : m < 2 ^ 53 := by
  revert read
  fun_cases UnpackedFloat.unpack with
  | case1 => nofun
  | case2 => nofun
  | case3 => nofun
  | case4 mantissa =>
    intro read
    obtain ⟨-, rfl, -⟩ := finite.inj read
    exact mantissa.isLt.trans (by decide)
  | case5 mantissa =>
    intro read
    obtain ⟨-, rfl, -⟩ := finite.inj read
    exact (1#1 ++ mantissa).isLt

theorem short_of_value? {x : Float} {r : ℚ} (value : value? x = some r) : Short r := by
  unfold value? Float.Model.unpack at value
  cases read : UnpackedFloat.unpack .binary64 x.toModel.toBits.toBitVec with
  | infinity s => simp [read, unpackedValue?] at value
  | notANumber => simp [read, unpackedValue?] at value
  | zero s =>
    obtain rfl : 0 = r := by simpa [read, unpackedValue?] using value
    exact ⟨0, 0, by norm_num, by norm_num⟩
  | finite s m e h =>
    obtain rfl : s.apply m * 2 ^ e = r := by simpa [read, unpackedValue?] using value
    have size : |s.apply m| = m := by cases s <;> simp [Sign.apply]
    have bits : (m : ℤ) < 2 ^ 53 := by exact_mod_cast mantissa_lt read
    exact ⟨s.apply m, e, by rwa [size], rfl⟩

theorem Short.neg {r : ℚ} (short : Short r) : Short (-r) := by
  obtain ⟨k, e, size, rfl⟩ := short
  exact ⟨-k, e, by rwa [abs_neg], by push_cast; ring⟩

end Double

/-- No integer is nearer to a number than one that is at most a half away. -/
theorem near_le {q k : ℤ} {x : ℚ} (near : |(q : ℚ) - x| ≤ 1 / 2) : |x - q| ≤ |x - k| := by
  rw [abs_sub_comm] at near
  by_cases same : k = q
  · rw [same]
  · have apart : (1 : ℚ) ≤ |(k : ℚ) - q| := by
      exact_mod_cast Int.one_le_abs (sub_ne_zero.mpr same)
    have triangle := abs_sub_le (k : ℚ) x q
    rw [abs_sub_comm (k : ℚ) x] at triangle
    linarith

/-- No double is nearer to a natural number than the rounded one. -/
theorem Rounded.le {z : Nat} {v r : ℚ} (rounded : Rounded z v) (short : Double.Short r) :
    |(z : ℚ) - v| ≤ |(z : ℚ) - r| := by
  obtain rfl | ⟨q, t, rfl, large, near⟩ := rounded
  · simp
  obtain ⟨k, e, size, rfl⟩ := short
  have room : (0 : ℚ) < 2 ^ t := by positivity
  -- What is far from `z` in steps of the power is far from it.
  have scaled (j : ℤ) : |(z : ℚ) - q * 2 ^ t| ≤ |(z : ℚ) - j * 2 ^ t| := by
    have steps (i : ℚ) : |(z : ℚ) - i * 2 ^ t| = |(z : ℚ) / 2 ^ t - i| * 2 ^ t := by
      rw [← abs_of_pos room, ← abs_mul, abs_of_pos room, sub_mul, div_mul_cancel₀ _ room.ne']
    have := near_le (q := (q : ℤ)) (k := j) (x := z / 2 ^ t) (by exact_mod_cast near)
    rw [steps, steps]
    exact mul_le_mul_of_nonneg_right (by exact_mod_cast this) room.le
  by_cases fine : (t : ℤ) ≤ e
  · -- A coarse double is a multiple of the power too.
    obtain ⟨d, rfl⟩ := Int.le.dest fine
    have multiple : (k * 2 ^ ((t : ℤ) + d) : ℚ) = ((k * 2 ^ d : ℤ) : ℚ) * 2 ^ t := by
      rw [zpow_add₀ two_ne_zero]
      push_cast
      rw [zpow_natCast, zpow_natCast]
      ring
    exact multiple ▸ scaled _
  · -- A fine double is below `2 ^ (52 + t)`, which is a multiple of the power.
    have small : (k : ℚ) * 2 ^ e ≤ 2 ^ 52 * 2 ^ t := by
      have top : (k : ℚ) ≤ 2 ^ 53 := by exact_mod_cast (abs_lt.mp size).2.le
      have step : (2 : ℚ) ^ (e + 1) ≤ 2 ^ (t : ℤ) := zpow_le_zpow_right₀ (by norm_num) (by omega)
      rw [zpow_add₀ two_ne_zero, zpow_natCast] at step
      calc (k : ℚ) * 2 ^ e ≤ 2 ^ 53 * 2 ^ e := mul_le_mul_of_nonneg_right top (by positivity)
        _ = 2 ^ 52 * (2 ^ e * 2 ^ (1 : ℤ)) := by ring
        _ ≤ 2 ^ 52 * 2 ^ t := by gcongr
    have above : (2 ^ 52 * 2 ^ t : ℚ) ≤ z := by
      rw [← pow_add]
      exact_mod_cast large
    calc |(z : ℚ) - q * 2 ^ t| ≤ |(z : ℚ) - ((2 ^ 52 : ℤ) : ℚ) * 2 ^ t| := scaled _
      _ = z - 2 ^ 52 * 2 ^ t := by
        push_cast
        exact abs_of_nonneg (sub_nonneg.mpr above)
      _ ≤ z - k * 2 ^ e := by linarith
      _ ≤ |(z : ℚ) - k * 2 ^ e| := le_abs_self _

/-! ## Integers -/

namespace Double

/-- No double is nearer to the number than this one, which is finite. -/
def Nearest (q : ℚ) (x : Float) : Prop :=
  ∃ v, value? x = some v ∧ ∀ y w, value? y = some w → |q - v| ≤ |q - w|

theorem unpack_pack_zero (s : Sign) : (Float.Model.pack (.zero s)).unpack = .zero s :=
  unpack_packedZero

theorem unpack_pack_finite (s : Sign) {m : Nat} {e : Int} (pos : 0 < m) (bits : m.log2 = 52)
    (low : -1074 ≤ e) (high : e ≤ 971) :
    (Float.Model.pack (.finite s m e pos)).unpack = .finite s m e pos := by
  obtain ⟨atLeast, atMost⟩ := (Nat.log2_eq_iff pos.ne').mp bits
  obtain ⟨b, biased, least, most⟩ : ∃ b : ℕ, e + 1023 + 52 = b ∧ 0 < b ∧ b < 2047 :=
    ⟨(e + 1075).toNat, by omega, by omega, by omega⟩
  have field : (BitVec.ofNat 11 b).toNat = b := Nat.mod_eq_of_lt (by omega)
  have notFull : BitVec.ofNat 11 b ≠ -1#11 :=
    fun full => most.ne (field.symm.trans (congrArg BitVec.toNat full))
  have notNone : BitVec.ofNat 11 b ≠ 0#11 :=
    fun none => least.ne' (field.symm.trans (congrArg BitVec.toNat none))
  have mantissa : (1#1 ++ BitVec.ofNat 52 m).toNat = m := by
    rw [BitVec.toNat_append, ← Nat.shiftLeft_add_eq_or_of_lt (BitVec.isLt _), BitVec.toNat_ofNat,
      BitVec.toNat_ofNat]
    omega
  have packed : UnpackedFloat.pack .binary64 (.finite s m e pos) =
      packComponents .binary64 s (BitVec.ofNat 11 b) (BitVec.ofNat 52 m) := by
    simp only [UnpackedFloat.pack, Format.exponentBias, Format.mantissaBits, bits]
    norm_num
    rw [biased, Int.toNat_natCast, if_neg (by omega)]
  have unbiased : (b : ℤ) - (Format.binary64.exponentBias + 52) = e := by
    rw [← biased]
    norm_num [Format.exponentBias]
    omega
  unfold Float.Model.unpack Float.Model.pack
  dsimp only
  rw [packed]
  simp only [UnpackedFloat.unpack, unpackExponent_packComponents, unpackMantissa_packComponents,
    unpackSign_packComponents, Sign.ofBitVec_toBitVec, field]
  rw [if_neg notFull, if_neg notNone]
  exact (finite.injEq ..).mpr ⟨rfl, mantissa, unbiased⟩

theorem nearest_round (s : Sign) {z : Nat} (pos : 0 < z) (small : z < 2 ^ 64) :
    Nearest (s.apply z : ℤ) (.ofModel (.pack (UnpackedFloat.round .binary64 s z 0))) := by
  obtain ⟨m, e, h, made, bits, low, high, rounded⟩ := round_natCast s pos small
  unfold Nearest value?
  rw [made, unpack_pack_finite s h bits (by omega) (by omega)]
  refine ⟨_, rfl, fun y w value => ?_⟩
  have short := short_of_value? value
  cases s with
  | positive => simpa [Sign.apply] using rounded.le short
  | negative =>
    have near := rounded.le short.neg
    rw [← abs_neg, neg_sub', ← abs_neg ((z : ℚ) - -w), neg_sub'] at near
    simpa [Sign.apply] using near

/-- An integer of 64 bits becomes a nearest double. -/
theorem nearest_ofInt {z : ℤ} (small : z.natAbs < 2 ^ 64) :
    Nearest z (.ofModel (.ofInt z)) := by
  unfold Float.Model.ofInt UnpackedFloat.ofInt UnpackedFloat.normalize
  rcases lt_trichotomy z 0 with below | rfl | above
  · have order : compare z 0 = .lt := compare_lt_iff_lt.mpr below
    have size : (-z).toNat = z.natAbs := by omega
    have same : Sign.negative.apply z.natAbs = z := by simp only [Sign.apply]; omega
    rw [order]
    have nearest := nearest_round .negative (z := z.natAbs) (by omega) small
    rwa [same, ← size] at nearest
  · refine ⟨0, ?_, fun y w _ => ?_⟩
    · exact congrArg unpackedValue? (unpack_pack_zero .positive)
    · simp
  · have order : compare z 0 = .gt := compare_gt_iff_gt.mpr above
    have size : z.toNat = z.natAbs := by omega
    have same : Sign.positive.apply z.natAbs = z := by simp only [Sign.apply]; omega
    rw [order]
    have nearest := nearest_round .positive (z := z.natAbs) (by omega) small
    rwa [same, ← size] at nearest

theorem isFinite_of_nearest {q : ℚ} {x : Float} (nearest : Nearest q x) : x.isFinite := by
  obtain ⟨v, value, -⟩ := nearest
  rw [← value?_isSome, value, Option.isSome_some]

end Double

end RuleMachine
