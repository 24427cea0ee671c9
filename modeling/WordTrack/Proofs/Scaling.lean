import WordTrack.Json.Numeral
import WordTrack.Proofs.Decimals
import WordTrack.Proofs.DoublePrecision

/-! The double of a coefficient and a power of ten. The coefficient and the power are
rounded, and so is their product or quotient; a small number takes two quotients. With few
digits and a small power nothing is rounded before the last step. -/
namespace WordTrack

theorem tenPow_mono {m n : Nat} (below : m ≤ n) : tenPow m ≤ tenPow n :=
  Nat.pow_le_pow_right (by decide) below

theorem two_le_tenPow {n : Nat} (positive : 0 < n) : 2 ≤ tenPow n := by
  obtain ⟨m, rfl⟩ := Nat.exists_eq_add_one_of_ne_zero positive.ne'
  have := tenPow_pos m
  rw [tenPow_succ]
  omega

namespace Json.Numeral

open BinaryFormat

section Steps

variable {fuel code : Nat} {exponent : Int}

theorem value_ofNat_ge {n : Nat} (positive : 0 < n) : (n : ℚ) / 2 ≤ double.value (double.ofNat n) := by
  have size : (0 : ℚ) < n := by exact_mod_cast positive
  have share := mul_le_mul_of_nonneg_left roundoff_small size.le
  linarith [(ofNat_within n).bounds.1]

theorem units_ofNat_pos {n : Nat} (positive : 0 < n) : 0 < double.units (double.ofNat n) := by
  have size : (0 : ℚ) < n := by exact_mod_cast positive
  have units : (0 : ℚ) < double.units (double.ofNat n) := by
    rw [units_eq]
    exact mul_pos (by linarith [value_ofNat_ge positive]) double.one_pos
  exact_mod_cast units

theorem ofNat_ne_zero {n : Nat} (positive : 0 < n) : double.ofNat n ≠ 0 := by
  intro zero
  have units := units_ofNat_pos positive
  rw [zero, double.units_zero] at units
  contradiction

theorem div_zero_tenPow (n : Nat) : double.div 0 (double.ofNat (tenPow n)) = 0 := by
  rw [BinaryFormat.div, double.units_zero, Nat.zero_mul,
    encode_tiny (units_ofNat_pos (tenPow_pos n))]

theorem mul_zero (b : Nat) : double.mul 0 b = 0 := by
  rw [BinaryFormat.mul, double.units_zero, Nat.zero_mul, encode_tiny (twoPow_pos _)]

theorem scale_zero (fuel : Nat) (exponent : Int) : scale fuel 0 exponent = .ok 0 := by
  cases fuel with
  | zero => rfl
  | succ fuel =>
    unfold scale
    simp only [if_true, div_zero_tenPow, mul_zero]
    split_ifs with inside negative finite
    · rfl
    · rfl
    · exact absurd (by decide) finite
    · rfl

theorem scale_up (inside : exponent.natAbs ≤ powerMax) (nonnegative : ¬exponent < 0)
    (finite : double.mul code (double.ofNat (tenPow exponent.natAbs)) < double.top) :
    scale (fuel + 1) code exponent =
      .ok (double.mul code (double.ofNat (tenPow exponent.natAbs))) := by
  unfold scale
  exact (if_pos inside).trans ((if_neg nonnegative).trans (if_pos finite))

theorem scale_down (inside : exponent.natAbs ≤ powerMax) (negative : exponent < 0) :
    scale (fuel + 1) code exponent =
      .ok (double.div code (double.ofNat (tenPow exponent.natAbs))) := by
  unfold scale
  exact (if_pos inside).trans (if_pos negative)

/-- Past all doubles there is no result. -/
theorem scale_past (inside : exponent.natAbs ≤ powerMax) (nonnegative : ¬exponent < 0)
    (past : ¬double.mul code (double.ofNat (tenPow exponent.natAbs)) < double.top) :
    scale (fuel + 1) code exponent = .error .malformed := by
  unfold scale
  exact (if_pos inside).trans ((if_neg nonnegative).trans (if_neg past))

theorem scale_beyond (outside : ¬exponent.natAbs ≤ powerMax) (nonnegative : ¬exponent < 0)
    (nonzero : code ≠ 0) : scale (fuel + 1) code exponent = .error .malformed := by
  unfold scale
  exact (if_neg outside).trans ((if_neg nonzero).trans (if_pos (Int.not_lt.mp nonnegative)))

/-- Far below one a part of the power is taken first. -/
theorem scale_far (far : exponent < -powerMax) :
    scale (fuel + 1) code exponent =
      scale fuel (double.div code (double.ofNat (tenPow powerMax))) (exponent + powerMax) := by
  by_cases zero : code = 0
  · rw [zero, div_zero_tenPow, scale_zero, scale_zero]
  · have outside : ¬exponent.natAbs ≤ powerMax := by omega
    have negative : ¬0 ≤ exponent := by omega
    rw [scale]
    exact (if_neg outside).trans ((if_neg zero).trans (if_neg negative))

end Steps

section Errors

variable {r h c : ℚ} {code n : Nat}

/-- A quotient by a power of ten. -/
theorem div_tenPow_within (within : Within r h (double.value code) c) (dividend : 0 ≤ c)
    (positive : 0 < n) (share : 0 ≤ r) (few : r ≤ 4 * roundoff) (more : 0 ≤ h) :
    Within (r + 3 * roundoff) (h + underflow)
      (double.value (double.div code (double.ofNat (tenPow n)))) (c / tenPow n) := by
  have two : (2 : ℚ) ≤ tenPow n := by exact_mod_cast two_le_tenPow positive
  have divisor := value_ofNat_ge (tenPow_pos n)
  exact quotient_within dividend two share few more within (ofNat_within _)
    (div_within (by linarith))

/-- The first quotient of a coefficient. -/
theorem ofNat_div_tenPow_within (c : Nat) (positive : 0 < n) :
    Within (4 * roundoff) underflow
      (double.value (double.div (double.ofNat c) (double.ofNat (tenPow n)))) (c / tenPow n) := by
  have within := div_tenPow_within (ofNat_within c) (Nat.cast_nonneg c) positive roundoff_pos.le
    (by linarith [roundoff_pos]) le_rfl
  convert within using 1 <;> ring

variable {d : Decimal}

theorem down_within (inside : d.exponent.natAbs ≤ powerMax) (negative : d.exponent < 0) :
    ∃ w, ofDecimal d = .ok w ∧ Within (4 * roundoff) underflow (double.value w) d.value := by
  refine ⟨_, scale_down inside negative, ?_⟩
  rw [Decimal.value_of_neg negative]
  exact ofNat_div_tenPow_within _ (by omega)

theorem up_within (nonnegative : ¬d.exponent < 0) :
    Within (4 * roundoff) underflow
      (double.value (double.mul (double.ofNat d.coefficient)
        (double.ofNat (tenPow d.exponent.natAbs)))) d.value := by
  rw [Decimal.value_of_nonneg nonnegative]
  exact product_within (Nat.cast_nonneg _) (Nat.cast_nonneg _) (ofNat_within _) (ofNat_within _)
    (mul_within _ _)

/-- Two quotients, of which the first is by the largest power. -/
theorem far_within (far : d.exponent < -powerMax) (inside : -(2 * powerMax : Nat) ≤ d.exponent) :
    ∃ w, ofDecimal d = .ok w ∧ Within (7 * roundoff) (2 * underflow) (double.value w) d.value := by
  have within := ofNat_div_tenPow_within d.coefficient (n := powerMax) (by decide)
  have again := div_tenPow_within within (by positivity) (n := (d.exponent + powerMax).natAbs)
    (by omega) (by linarith [roundoff_pos]) le_rfl underflow_pos.le
  have powers : tenPow d.exponent.natAbs = tenPow powerMax * tenPow (d.exponent + powerMax).natAbs := by
    rw [tenPow, tenPow, tenPow, Nat.pow_eq, Nat.pow_eq, Nat.pow_eq, ← Nat.pow_add]
    congr 1
    omega
  refine ⟨_, (scale_far far).trans (scale_down (by omega) (by omega)), ?_⟩
  rw [Decimal.value_of_neg (by omega), powers, Nat.cast_mul, ← div_div]
  convert again using 1 <;> ring

/-- A second quotient by the largest power is zero. -/
theorem div_div_tenPow {c : Nat} (fits : c ≤ coefficientMax) :
    double.div (double.div (double.ofNat c) (double.ofNat (tenPow powerMax)))
      (double.ofNat (tenPow powerMax)) = 0 := by
  have upper := (ofNat_div_tenPow_within c (n := powerMax) (by decide)).bounds.2
  have divisor := value_ofNat_ge (tenPow_pos powerMax)
  have large : (16 * (c * double.one) : ℚ) ≤ tenPow powerMax * tenPow powerMax := by
    have most : 16 * (coefficientMax * double.one) ≤ tenPow powerMax * tenPow powerMax := by
      decide +kernel
    exact_mod_cast (Nat.mul_le_mul_left 16 (Nat.mul_le_mul_right double.one fits)).trans most
  have four : (4 : ℚ) < tenPow powerMax := by
    have power : 4 < tenPow powerMax := by decide +kernel
    exact_mod_cast power
  have one := double.one_pos
  have half := underflow_mul_one
  generalize double.div (double.ofNat c) (double.ofNat (tenPow powerMax)) = b at upper
  generalize double.ofNat (tenPow powerMax) = p at divisor
  generalize (tenPow powerMax : ℚ) = t at upper divisor large four
  have quotient : (c : ℚ) / t * double.one ≤ t / 16 := by
    rw [div_mul_eq_mul_div, div_le_iff₀ (by linarith)]
    linarith
  have nonneg : (0 : ℚ) ≤ c / t * double.one :=
    mul_nonneg (div_nonneg (Nat.cast_nonneg _) (by linarith)) one.le
  have double_le : double.value b * double.one ≤ 2 * (c / t * double.one) + 1 / 2 := by
    have scaled := mul_le_mul_of_nonneg_right upper one.le
    have share := mul_le_mul_of_nonneg_left roundoff_small nonneg
    linarith
  have tiny : (2 * (double.units b * double.one) : ℚ) < double.units p := by
    rw [units_eq, units_eq, ← mul_assoc]
    apply mul_lt_mul_of_pos_right _ one
    linarith
  exact encode_tiny (by exact_mod_cast tiny)

/-- A number below all doubles is read as zero. -/
theorem beyond_within (fits : d.coefficient ≤ coefficientMax)
    (beyond : d.exponent < -(2 * powerMax : Nat)) :
    ∃ w, ofDecimal d = .ok w ∧ Within (7 * roundoff) (2 * underflow) (double.value w) d.value := by
  have read : ofDecimal d = .ok 0 := by
    unfold ofDecimal
    rw [scale_far (by omega), scale_far (by omega), div_div_tenPow fits, scale_zero]
  have units : d.coefficient * double.one ≤ tenPow d.exponent.natAbs := by
    have most : coefficientMax * double.one ≤ tenPow (2 * powerMax) := by decide +kernel
    calc d.coefficient * double.one
      _ ≤ coefficientMax * double.one := Nat.mul_le_mul_right _ fits
      _ ≤ tenPow (2 * powerMax) := most
      _ ≤ tenPow d.exponent.natAbs := tenPow_mono (by omega)
  have least : d.value ≤ 2 * underflow := by
    have power : (0 : ℚ) < tenPow d.exponent.natAbs := by exact_mod_cast tenPow_pos _
    rw [Decimal.value_of_neg (by omega), two_mul_underflow_eq, div_le_div_iff₀ power double.one_pos,
      one_mul]
    exact_mod_cast units
  have nonneg : 0 ≤ d.value := d.value_nonneg
  refine ⟨0, read, ?_⟩
  unfold Within
  rw [value_zero, zero_sub, abs_neg, abs_of_nonneg nonneg]
  exact least.trans (le_add_of_nonneg_left (mul_nonneg nonneg (by linarith [roundoff_pos])))

end Errors

section Decimals

variable {d : Decimal}

theorem ofDecimal_zero (zero : d.coefficient = 0) : ofDecimal d = .ok 0 := by
  have code : double.ofNat 0 = 0 := by rw [ofNat, encode_tiny (by omega)]
  rw [ofDecimal, zero, code, scale_zero]

/-- A power larger than all doubles makes a number as large. -/
theorem le_value_of_outside (nonnegative : ¬d.exponent < 0) (outside : ¬d.exponent.natAbs ≤ powerMax)
    (positive : 0 < d.coefficient) : 2 ^ 1024 ≤ d.value := by
  have power : twoPow 1024 ≤ tenPow (powerMax + 1) := by decide +kernel
  have large : twoPow 1024 ≤ d.coefficient * tenPow d.exponent.natAbs :=
    calc twoPow 1024
      _ ≤ tenPow (powerMax + 1) := power
      _ ≤ tenPow d.exponent.natAbs := tenPow_mono (by omega)
      _ ≤ _ := Nat.le_mul_of_pos_left _ positive
  rw [Decimal.value_of_nonneg nonnegative, ← cast_twoPow]
  exact_mod_cast large

/-- A coefficient itself is far from the end of the doubles. -/
theorem inside_of_le {x : ℚ} (small : x ≤ coefficientMax) :
    x * (1 + 7 * roundoff) + 2 * underflow < 2 ^ 1024 := by
  have most : (coefficientMax : ℚ) ≤ 2 ^ 64 := by exact_mod_cast (by decide : coefficientMax ≤ 2 ^ 64)
  have limit : (2 : ℚ) ^ 66 ≤ 2 ^ 1024 := pow_le_pow_right₀ (by norm_num) (by decide)
  have tiny := underflow_small
  refine lt_of_lt_of_le ?_ limit
  unfold roundoff
  linarith

theorem value_le_coefficient (negative : d.exponent < 0) : d.value ≤ d.coefficient := by
  have power : (1 : ℚ) ≤ tenPow d.exponent.natAbs := by exact_mod_cast tenPow_pos _
  rw [Decimal.value_of_neg negative]
  exact div_le_self (Nat.cast_nonneg _) power

theorem down_outcome (fits : d.coefficient ≤ coefficientMax) (negative : d.exponent < 0) :
    ∃ w, ofDecimal d = .ok w ∧ Within (7 * roundoff) (2 * underflow) (double.value w) d.value := by
  by_cases inside : d.exponent.natAbs ≤ powerMax
  · obtain ⟨w, read, within⟩ := down_within inside negative
    refine ⟨w, read, within.mono d.value_nonneg ?_ ?_⟩
    · linarith [roundoff_pos]
    · linarith [underflow_pos]
  · by_cases far : -(2 * powerMax : Nat) ≤ d.exponent
    · exact far_within (by omega) far
    · exact beyond_within fits (by omega)

theorem up_outcome (nonnegative : ¬d.exponent < 0) :
    (∃ w, ofDecimal d = .ok w ∧ w < double.top ∧
        Within (4 * roundoff) underflow (double.value w) d.value) ∨
      ofDecimal d = .error .malformed ∧ 2 ^ 1024 ≤ d.value * (1 + 4 * roundoff) + underflow := by
  have within := up_within nonnegative
  have share := mul_nonneg d.value_nonneg roundoff_pos.le
  by_cases inside : d.exponent.natAbs ≤ powerMax
  · by_cases finite : double.mul (double.ofNat d.coefficient)
        (double.ofNat (tenPow d.exponent.natAbs)) < double.top
    · exact .inl ⟨_, scale_up inside nonnegative finite, finite, within⟩
    · refine .inr ⟨scale_past inside nonnegative finite, ?_⟩
      by_contra less
      exact finite (lt_top_of_value_lt (within.bounds.2.trans_lt (not_le.mp less)))
  · rcases Nat.eq_zero_or_pos d.coefficient with zero | positive
    · have value : d.value = 0 := by rw [Decimal.value, zero, Nat.cast_zero, zero_mul]
      refine .inl ⟨0, ofDecimal_zero zero, by decide, ?_⟩
      unfold Within
      rw [value_zero, value]
      norm_num [underflow_pos.le]
    · refine .inr ⟨scale_beyond inside nonnegative (ofNat_ne_zero positive), ?_⟩
      refine (le_value_of_outside nonnegative inside positive).trans ?_
      linarith [underflow_pos]

/-- A decimal is read as a double near to it, or it is past all doubles, or would be if it
were a little larger. -/
theorem ofDecimal_outcome (fits : d.coefficient ≤ coefficientMax) :
    (∃ w, ofDecimal d = .ok w ∧ w < double.top ∧
        Within (7 * roundoff) (2 * underflow) (double.value w) d.value) ∨
      ofDecimal d = .error .malformed ∧ 2 ^ 1024 ≤ d.value * (1 + 7 * roundoff) + 2 * underflow := by
  have share := mul_nonneg d.value_nonneg roundoff_pos.le
  by_cases negative : d.exponent < 0
  · obtain ⟨w, read, within⟩ := down_outcome fits negative
    have small : d.value ≤ coefficientMax :=
      (value_le_coefficient negative).trans (by exact_mod_cast fits)
    exact .inl ⟨w, read, lt_top_of_value_lt (within.bounds.2.trans_lt (inside_of_le small)), within⟩
  · rcases up_outcome negative with ⟨w, read, finite, within⟩ | ⟨refused, large⟩
    · refine .inl ⟨w, read, finite, within.mono d.value_nonneg ?_ ?_⟩
      · linarith [roundoff_pos]
      · linarith [underflow_pos]
    · exact .inr ⟨refused, large.trans (by linarith [underflow_pos])⟩

/-- With few digits and a small power it is the nearest double. -/
theorem ofDecimal_nearest {w : Nat} (read : ofDecimal d = .ok w)
    (few : d.coefficient < twoPow 53) (small : d.exponent.natAbs ≤ 22) :
    double.Nearest d.value w := by
  have inside : d.exponent.natAbs ≤ powerMax := small.trans (by decide)
  have exact : double.value (double.ofNat d.coefficient) = d.coefficient := value_ofNat few
  have power := value_ofNat_tenPow small
  by_cases negative : d.exponent < 0
  · obtain rfl := Except.ok.inj ((scale_down inside negative).symm.trans read)
    rw [Decimal.value_of_neg negative, ← exact, ← power, ← value_div_value]
    exact nearest_encode (by decide) _ (units_ofNat_pos (tenPow_pos _))
  · have product : w = double.mul (double.ofNat d.coefficient)
        (double.ofNat (tenPow d.exponent.natAbs)) := by
      by_cases finite : double.mul (double.ofNat d.coefficient)
          (double.ofNat (tenPow d.exponent.natAbs)) < double.top
      · exact Except.ok.inj (read.symm.trans (scale_up inside negative finite))
      · have refused : ofDecimal d = .error .malformed := scale_past inside negative finite
        rw [refused] at read
        contradiction
    rw [product, Decimal.value_of_nonneg negative, ← exact, ← power, ← value_mul_value]
    exact nearest_encode (by decide) _ (twoPow_pos _)

end Decimals

end Json.Numeral

end WordTrack
