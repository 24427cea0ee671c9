import WordTrack.Proofs.Nearest

/-! Products and quotients in double precision. One rounding is off by a small share of
the exact result, and for the least numbers by half a unit. Where operands and results are
rounded, the shares add up. -/
namespace WordTrack.BinaryFormat

theorem cast_twoPow (n : Nat) : (twoPow n : ℚ) = 2 ^ n := Nat.cast_pow 2 n

/-- The relative error of one rounding in double precision. -/
def roundoff : ℚ := 1 / 2 ^ 53

/-- Half of the least double. -/
def underflow : ℚ := 1 / (2 * double.one)

/-- Within a share of the exact number and so much more. -/
def Within (share more approximate exact : ℚ) : Prop :=
  |approximate - exact| ≤ exact * share + more

theorem roundoff_pos : 0 < roundoff := by norm_num [roundoff]

theorem roundoff_small : 100 * roundoff ≤ 1 := by norm_num [roundoff]

theorem underflow_pos : 0 < underflow := one_div_pos.mpr (mul_pos two_pos double.one_pos)

theorem two_mul_underflow_eq : 2 * underflow = 1 / double.one := by
  rw [underflow, mul_one_div, div_mul_cancel_left₀ two_ne_zero, one_div]

theorem underflow_mul_one : underflow * double.one = 1 / 2 := by
  rw [underflow, one_div_mul_eq_div, mul_comm, div_mul_cancel_left₀ double.one_pos.ne', one_div]

theorem two_mul_underflow : 2 * underflow = 1 / 2 ^ 1074 := by
  have one : (double.one : ℚ) = 2 ^ 1074 := cast_twoPow _
  rw [two_mul_underflow_eq, one]

theorem underflow_small : 2 * underflow ≤ 1 / 2 ^ 100 := by
  rw [two_mul_underflow]
  exact one_div_le_one_div_of_le (by positivity) (pow_le_pow_right₀ (by norm_num) (by decide))

theorem share_eq (x : ℚ) : x / (2 * twoPow double.fractionBits) = x * roundoff := by
  rw [roundoff, div_eq_mul_one_div]
  norm_num [twoPow, double]

theorem encode_within {num den : Nat} (positive : 0 < den) :
    Within roundoff underflow (double.value (double.encode num den)) (num / den / double.one) := by
  have exact : (0 : ℚ) ≤ num / den / double.one :=
    div_nonneg (div_nonneg (Nat.cast_nonneg _) (Nat.cast_nonneg _)) double.one_pos.le
  have share := mul_nonneg exact roundoff_pos.le
  have near := double.encode_near num positive
  rw [share_eq] at near
  unfold Within
  rcases near with large | least
  · exact large.trans (le_add_of_nonneg_right underflow_pos.le)
  · exact least.trans (le_add_of_nonneg_left share)

theorem value_zero (f : BinaryFormat) : f.value 0 = 0 := by
  rw [value, f.units_zero, Nat.cast_zero, zero_div]

theorem encode_tiny {f : BinaryFormat} {num den : Nat} (tiny : 2 * num < den) :
    f.encode num den = 0 := by
  have quotient : num / den = 0 := Nat.div_eq_of_lt (by omega)
  have least : f.binade num den = 0 := by
    rw [binade, quotient]
    exact Nat.zero_sub _
  have rounded : roundDiv num den = 0 := roundDiv_eq (by omega) (by omega)
  rw [encode_eq, least, show twoPow 0 = 1 from rfl, Nat.mul_one, rounded, Nat.zero_mul]

theorem ofNat_within (n : Nat) : Within roundoff 0 (double.value (double.ofNat n)) n := by
  have one := double.one_pos
  have exact : ((n * double.one : Nat) : ℚ) / (1 : Nat) / double.one = n := by
    rw [Nat.cast_one, div_one, Nat.cast_mul, mul_div_cancel_right₀ _ one.ne']
  have near := double.encode_near (n * double.one) Nat.one_pos
  rw [exact, share_eq] at near
  unfold Within
  rw [add_zero]
  refine near.elim id fun least => ?_
  rcases Nat.eq_zero_or_pos n with rfl | positive
  · rw [ofNat, encode_tiny (by omega), value_zero]
    norm_num
  · -- A positive whole number has many units.
    have whole : (1 : ℚ) ≤ n := by exact_mod_cast positive
    have fine : (twoPow double.fractionBits : ℚ) ≤ double.one := by
      exact_mod_cast twoPow_mono (by decide)
    have unit : 1 / (2 * double.one) ≤ 1 * roundoff := by
      rw [← share_eq]
      apply one_div_le_one_div_of_le
      · have := twoPow_pos double.fractionBits
        positivity
      · linarith
    exact least.trans (unit.trans (mul_le_mul_of_nonneg_right whole roundoff_pos.le))

theorem value_mul_value {f : BinaryFormat} (a b : Nat) :
    ((f.units a * f.units b : Nat) : ℚ) / f.one / f.one = f.value a * f.value b := by
  rw [Nat.cast_mul, value, value]
  ring

theorem mul_within (a b : Nat) :
    Within roundoff underflow (double.value (double.mul a b)) (double.value a * double.value b) := by
  rw [← value_mul_value]
  exact encode_within (twoPow_pos _)

theorem value_div_value {f : BinaryFormat} (a b : Nat) :
    ((f.units a * f.one : Nat) : ℚ) / f.units b / f.one = f.value a / f.value b := by
  have one := f.one_pos.ne'
  rw [Nat.cast_mul, value, value, div_div_div_cancel_right₀ one, div_right_comm,
    mul_div_cancel_right₀ _ one]

theorem div_within {a b : Nat} (divisor : 0 < double.value b) :
    Within roundoff underflow (double.value (double.div a b)) (double.value a / double.value b) := by
  have positive : 0 < double.units b := by
    have units : (0 : ℚ) < double.units b := by
      rw [units_eq]
      exact mul_pos divisor double.one_pos
    exact_mod_cast units
  rw [← value_div_value]
  exact encode_within positive

/-- The first code that is not finite stands where the next power of two would. -/
theorem value_top : double.value double.top = 2 ^ 1024 := by
  have top : double.top = 2046 * twoPow double.fractionBits + (twoPow double.fractionBits + 0) := by
    decide
  have powers : double.fractionBits + 2046 = 1024 + double.unitExponent := by decide
  have units : double.units double.top = twoPow 1024 * double.one := by
    rw [top, double.units_normal 2046 (twoPow_pos _), Nat.add_zero, one, ← twoPow_add, ← twoPow_add,
      powers]
  rw [value, units, Nat.cast_mul, mul_div_cancel_right₀ _ double.one_pos.ne', cast_twoPow]

theorem lt_top_of_value_lt {code : Nat} (less : double.value code < 2 ^ 1024) :
    code < double.top := by
  rw [← value_top] at less
  exact value_strictMono.lt_iff_lt.mp less

/-- Whole numbers of as many bits as a significand has are exact. -/
theorem value_ofNat {f : BinaryFormat} {n : Nat} (few : n < twoPow (f.fractionBits + 1)) :
    f.value (f.ofNat n) = n := by
  rcases Nat.eq_zero_or_pos n with rfl | positive
  · rw [ofNat, encode_tiny (by omega), value_zero, Nat.cast_zero]
  · have bits : n * f.one < twoPow (f.fractionBits + 1 + f.unitExponent) := by
      rw [twoPow_add]
      exact Nat.mul_lt_mul_of_pos_right few (twoPow_pos _)
    have nonzero : n * f.one ≠ 0 := Nat.mul_ne_zero positive.ne' (twoPow_pos _).ne'
    have log := (Nat.log2_lt nonzero).mpr bits
    have coarse : f.binade (n * f.one) 1 ≤ f.unitExponent := by
      rw [binade, Nat.div_one]
      omega
    -- The spacing divides one.
    have whole : n * f.one = n * twoPow (f.unitExponent - f.binade (n * f.one) 1) *
        twoPow (f.binade (n * f.one) 1) := by
      rw [Nat.mul_assoc, ← twoPow_add, Nat.sub_add_cancel coarse, one]
    have units : f.units (f.ofNat n) = n * f.one := by
      rw [ofNat, f.units_encode _ Nat.one_pos, Nat.one_mul]
      generalize f.binade (n * f.one) 1 = k at whole
      rw [whole, roundDiv_mul _ (twoPow_pos k)]
    rw [value, units, Nat.cast_mul, mul_div_cancel_right₀ _ f.one_pos.ne']

theorem value_ofNat_tenPow {n : Nat} (small : n ≤ 22) :
    double.value (double.ofNat (tenPow n)) = tenPow n := by
  have exact : ∀ n < 23, double.units (double.ofNat (tenPow n)) = tenPow n * double.one := by
    decide +kernel
  rw [value, exact n (Nat.lt_succ_of_le small), Nat.cast_mul,
    mul_div_cancel_right₀ _ double.one_pos.ne']

section Shares

variable {a c p t x r h : ℚ}

theorem Within.bounds (within : Within r h a c) : c * (1 - r) - h ≤ a ∧ a ≤ c * (1 + r) + h := by
  obtain ⟨low, high⟩ := abs_le.mp within
  constructor <;> linarith

theorem within_of_bounds (low : c * (1 - r) - h ≤ a) (high : a ≤ c * (1 + r) + h) :
    Within r h a c := by
  refine abs_le.mpr ⟨?_, ?_⟩ <;> linarith

theorem Within.mono {r' h' : ℚ} (within : Within r h a c) (nonneg : 0 ≤ c) (share : r ≤ r')
    (more : h ≤ h') : Within r' h' a c := by
  have larger := mul_le_mul_of_nonneg_left share nonneg
  unfold Within at *
  linarith

/-- Three roundings around a product. -/
theorem product_within (first : 0 ≤ c) (second : 0 ≤ t) (left : Within roundoff 0 a c)
    (right : Within roundoff 0 p t) (product : Within roundoff underflow x (a * p)) :
    Within (4 * roundoff) underflow x (c * t) := by
  obtain ⟨lowA, highA⟩ := left.bounds
  obtain ⟨lowP, highP⟩ := right.bounds
  obtain ⟨low, high⟩ := product.bounds
  have error := roundoff_pos
  have small := roundoff_small
  have factor : 0 ≤ 1 - roundoff := by linarith
  have nonneg : 0 ≤ c * t := mul_nonneg first second
  simp only [sub_zero, add_zero] at lowA highA lowP highP
  have lower : c * (1 - roundoff) * (t * (1 - roundoff)) ≤ a * p :=
    mul_le_mul lowA lowP (by positivity) ((by positivity : 0 ≤ c * (1 - roundoff)).trans lowA)
  have upper : a * p ≤ c * (1 + roundoff) * (t * (1 + roundoff)) :=
    mul_le_mul highA highP ((by positivity : 0 ≤ t * (1 - roundoff)).trans lowP) (by positivity)
  apply within_of_bounds
  · calc c * t * (1 - 4 * roundoff) - underflow
      _ ≤ c * t * (1 - roundoff) ^ 3 - underflow := by
        apply sub_le_sub_right
        apply mul_le_mul_of_nonneg_left _ nonneg
        norm_num [roundoff]
      _ = c * (1 - roundoff) * (t * (1 - roundoff)) * (1 - roundoff) - underflow := by ring
      _ ≤ a * p * (1 - roundoff) - underflow :=
        sub_le_sub_right (mul_le_mul_of_nonneg_right lower factor) _
      _ ≤ x := low
  · calc x
      _ ≤ a * p * (1 + roundoff) + underflow := high
      _ ≤ c * (1 + roundoff) * (t * (1 + roundoff)) * (1 + roundoff) + underflow :=
        add_le_add_left (mul_le_mul_of_nonneg_right upper (by positivity)) _
      _ = c * t * (1 + roundoff) ^ 3 + underflow := by ring
      _ ≤ c * t * (1 + 4 * roundoff) + underflow := by
        apply add_le_add_left
        apply mul_le_mul_of_nonneg_left _ nonneg
        norm_num [roundoff]

/-- A quotient by a rounded number. What the dividend is off by more than a share gets no
larger. -/
theorem quotient_within (dividend : 0 ≤ c) (divisor : 2 ≤ t) (share : 0 ≤ r) (few : r ≤ 4 * roundoff)
    (more : 0 ≤ h) (left : Within r h a c) (right : Within roundoff 0 p t)
    (quotient : Within roundoff underflow x (a / p)) :
    Within (r + 3 * roundoff) (h + underflow) x (c / t) := by
  have size : 0 < t := by linarith
  obtain ⟨k, rfl⟩ : ∃ k, c = k * t := ⟨c / t, (div_mul_cancel₀ c size.ne').symm⟩
  obtain ⟨lowA, highA⟩ := left.bounds
  obtain ⟨lowP, highP⟩ := right.bounds
  obtain ⟨low, high⟩ := quotient.bounds
  have error := roundoff_pos
  have small := roundoff_small
  have factor : 0 < 1 - roundoff := by linarith
  have exact : 0 ≤ k := le_of_mul_le_mul_right (by linarith) size
  simp only [sub_zero, add_zero] at lowP highP
  have positive : 0 < p := (mul_pos size factor).trans_le lowP
  rw [mul_div_cancel_right₀ _ size.ne']
  have upper : a / p * (1 + roundoff) ≤ k * (1 + (r + 3 * roundoff)) + h := by
    rw [div_mul_eq_mul_div, div_le_iff₀ positive]
    have shares : (1 + r) * (1 + roundoff) ≤ (1 + (r + 3 * roundoff)) * (1 - roundoff) := by
      nlinarith
    calc a * (1 + roundoff)
      _ ≤ (k * t * (1 + r) + h) * (1 + roundoff) := mul_le_mul_of_nonneg_right highA (by linarith)
      _ = k * t * ((1 + r) * (1 + roundoff)) + h * (1 + roundoff) := by ring
      _ ≤ k * t * ((1 + (r + 3 * roundoff)) * (1 - roundoff)) + h * (t * (1 - roundoff)) := by
        apply add_le_add (mul_le_mul_of_nonneg_left shares dividend)
        apply mul_le_mul_of_nonneg_left _ more
        linarith [mul_le_mul_of_nonneg_right divisor factor.le]
      _ = (k * (1 + (r + 3 * roundoff)) + h) * (t * (1 - roundoff)) := by ring
      _ ≤ (k * (1 + (r + 3 * roundoff)) + h) * p := by
        apply mul_le_mul_of_nonneg_left lowP
        positivity
  have lower : k * (1 - (r + 3 * roundoff)) - h ≤ a / p * (1 - roundoff) := by
    rw [div_mul_eq_mul_div, le_div_iff₀ positive]
    have shares : (1 - (r + 3 * roundoff)) * (1 + roundoff) ≤ (1 - r) * (1 - roundoff) := by
      nlinarith
    calc (k * (1 - (r + 3 * roundoff)) - h) * p
      _ = k * (1 - (r + 3 * roundoff)) * p - h * p := sub_mul _ _ _
      _ ≤ k * (1 - (r + 3 * roundoff)) * (t * (1 + roundoff)) - h * (t * (1 - roundoff)) := by
        apply sub_le_sub
        · exact mul_le_mul_of_nonneg_left highP (mul_nonneg exact (by linarith))
        · exact mul_le_mul_of_nonneg_left lowP more
      _ = k * t * ((1 - (r + 3 * roundoff)) * (1 + roundoff)) - h * (t * (1 - roundoff)) := by ring
      _ ≤ k * t * ((1 - r) * (1 - roundoff)) - h * (1 * (1 - roundoff)) := by
        apply sub_le_sub (mul_le_mul_of_nonneg_left shares dividend)
        apply mul_le_mul_of_nonneg_left _ more
        exact mul_le_mul_of_nonneg_right (by linarith) factor.le
      _ = (k * t * (1 - r) - h) * (1 - roundoff) := by ring
      _ ≤ a * (1 - roundoff) := mul_le_mul_of_nonneg_right lowA factor.le
  apply within_of_bounds
  · linarith
  · linarith

end Shares

end WordTrack.BinaryFormat
