import WordTrack.Proofs.RoundingError

/-! Nearest numbers, stated without saying how they are found: no code of the format
stands for a number that is nearer, and where two are equally near the code is even.
There is one such code only, and encoding gives it. -/
namespace WordTrack

/-- A quotient is halfway between two numbers only if it is rounded to the even one. -/
theorem roundDiv_even {num den : Nat} (positive : 0 < den)
    (halfway : 2 * (roundDiv num den * den) = 2 * num + den ∨
      2 * num = 2 * (roundDiv num den * den) + den) : roundDiv num den % 2 = 0 := by
  have split := Nat.div_add_mod num den
  have below := Nat.mod_lt num positive
  rw [Nat.mul_comm] at split
  simp only [roundDiv] at halfway ⊢
  split_ifs at halfway ⊢ with less greater
  · omega
  · rw [Nat.add_mul] at halfway
    omega
  · omega

/-- A quotient and what it is rounded to, a half apart at most. -/
theorem roundDiv_half (num : Nat) {den : Nat} (positive : 0 < den) :
    |(roundDiv num den : ℚ) - num / den| ≤ 1 / 2 ∧
      (|(roundDiv num den : ℚ) - num / den| = 1 / 2 → roundDiv num den % 2 = 0) := by
  have size : (0 : ℚ) < den := by exact_mod_cast positive
  obtain ⟨x, exact⟩ : ∃ x : ℚ, (num : ℚ) = x * den := ⟨num / den, (div_mul_cancel₀ _ size.ne').symm⟩
  have quotient : (num : ℚ) / den = x := by rw [exact, mul_div_cancel_right₀ _ size.ne']
  obtain ⟨upper, lower⟩ := roundDiv_error num positive
  have even := @roundDiv_even num den positive
  rw [quotient]
  generalize roundDiv num den = r at upper lower even
  have above : (2 * (r * den) : ℚ) ≤ 2 * num + den := by exact_mod_cast upper
  have beneath : (2 * num : ℚ) ≤ 2 * (r * den) + den := by exact_mod_cast lower
  constructor
  · rw [exact] at above beneath
    rw [abs_le]
    constructor
    · exact le_of_mul_le_mul_right (by linarith) size
    · exact le_of_mul_le_mul_right (by linarith) size
  · intro halfway
    rcases eq_or_eq_neg_of_abs_eq halfway with high | low
    · refine even (.inl ?_)
      have scaled : (2 * (r * den) : ℚ) = 2 * num + den := by
        rw [exact, sub_eq_iff_eq_add.mp high]
        ring
      exact_mod_cast scaled
    · refine even (.inr ?_)
      have scaled : (2 * num : ℚ) = 2 * (r * den) + den := by
        rw [exact, sub_eq_iff_eq_add.mp low]
        ring
      exact_mod_cast scaled

/-- Whole numbers are one apart, so no other is nearer than a half. -/
theorem other_not_nearer {r m : Nat} {x : ℚ} (other : m ≠ r) (half : |(r : ℚ) - x| ≤ 1 / 2) :
    |(r : ℚ) - x| ≤ |(m : ℚ) - x| ∧ (|(m : ℚ) - x| = |(r : ℚ) - x| → |(r : ℚ) - x| = 1 / 2) := by
  have apart : 1 ≤ |(m : ℚ) - r| := by
    have whole : 1 ≤ |(m : Int) - r| := Int.one_le_abs (by omega)
    exact_mod_cast whole
  have triangle : |(m : ℚ) - r| ≤ |(m : ℚ) - x| + |(r : ℚ) - x| := by
    rw [abs_sub_comm (r : ℚ) x]
    exact abs_sub_le _ _ _
  constructor
  · linarith
  · intro same
    linarith

namespace BinaryFormat

variable (f : BinaryFormat)

/-- The code stands for a number nearest to `q`, and of two such it is the even one. -/
structure Nearest (q : ℚ) (code : Nat) : Prop where
  closest : ∀ other, |f.value code - q| ≤ |f.value other - q|
  even : ∀ other, other ≠ code → |f.value other - q| = |f.value code - q| → code % 2 = 0

variable {f}

theorem units_strictMono : StrictMono f.units := by
  refine Monotone.strictMono_of_injective (fun a b below => f.units_mono below) fun a b same => ?_
  rw [← f.encode_units a, same, f.encode_units]

theorem value_strictMono : StrictMono f.value := by
  intro a b less
  have units : (f.units a : ℚ) < f.units b := by exact_mod_cast units_strictMono less
  exact div_lt_div_of_pos_right units f.one_pos

theorem Nearest.unique {q : ℚ} {a b : Nat} (first : f.Nearest q a) (second : f.Nearest q b) :
    a = b := by
  -- Two nearest codes would both be even, with a nearer one between them.
  by_contra differ
  wlog less : a < b generalizing a b
  · exact this second first (Ne.symm differ) (by omega)
  have same : |f.value a - q| = |f.value b - q| :=
    le_antisymm (first.closest b) (second.closest a)
  have evenA := first.even b (Ne.symm differ) same.symm
  have evenB := second.even a differ same
  have low : f.value a < f.value (a + 1) := value_strictMono (by omega)
  have high : f.value (a + 1) < f.value b := value_strictMono (by omega)
  have nearer := first.closest (a + 1)
  rw [same] at nearer
  rcases abs_cases (f.value a - q) with ⟨absA, _⟩ | ⟨absA, _⟩ <;>
    rcases abs_cases (f.value b - q) with ⟨absB, _⟩ | ⟨absB, _⟩ <;>
      rcases abs_cases (f.value (a + 1) - q) with ⟨absM, _⟩ | ⟨absM, _⟩ <;> linarith

/-- A value below a binade is less than its start, and any other is a multiple of the
spacing there. -/
theorem multiple_or_below (code binade : Nat) :
    (∃ m, f.units code = m * twoPow binade) ∨
      0 < binade ∧ f.units code < twoPow f.fractionBits * twoPow binade := by
  obtain ⟨k, m, -, units, bound, -⟩ := f.exists_significand code
  rcases Nat.lt_or_ge k binade with lower | upper
  · right
    refine ⟨by omega, ?_⟩
    obtain ⟨j, gap⟩ := Nat.exists_eq_add_of_lt lower
    have doubled : twoPow binade = 2 * twoPow j * twoPow k := by
      rw [gap, twoPow_add, twoPow_add, show twoPow 1 = 2 from rfl]
      ring
    have atLeast := twoPow_pos j
    rw [units, doubled]
    calc m * twoPow k
      _ < 2 * twoPow f.fractionBits * twoPow k := Nat.mul_lt_mul_of_pos_right bound (twoPow_pos k)
      _ ≤ 2 * twoPow f.fractionBits * twoPow k * twoPow j := Nat.le_mul_of_pos_right _ atLeast
      _ = twoPow f.fractionBits * (2 * twoPow j * twoPow k) := by ring
  · left
    obtain ⟨j, rfl⟩ := Nat.exists_eq_add_of_le upper
    refine ⟨m * twoPow j, ?_⟩
    rw [units, twoPow_add]
    ring

section Encode

variable {num den : Nat}

/-- How far apart the values of neighbouring codes are, about a quotient. -/
def spacing (f : BinaryFormat) (num den : Nat) : ℚ := twoPow (f.binade num den) / f.one

/-- A quotient counted in spacings. -/
def place (f : BinaryFormat) (num den : Nat) : ℚ := num / (den * twoPow (f.binade num den) : Nat)

variable (f num den) in
theorem spacing_pos : 0 < f.spacing num den :=
  div_pos (by exact_mod_cast twoPow_pos _) f.one_pos

theorem place_mul_spacing (positive : 0 < den) :
    f.place num den * f.spacing num den = num / den / f.one := by
  have size : (den : ℚ) ≠ 0 := by exact_mod_cast positive.ne'
  have power : (twoPow (f.binade num den) : ℚ) ≠ 0 := by exact_mod_cast (twoPow_pos _).ne'
  have one := f.one_pos.ne'
  unfold place spacing
  push_cast
  field_simp

theorem distance_of_multiple (positive : 0 < den) {code m : Nat}
    (units : f.units code = m * twoPow (f.binade num den)) :
    |f.value code - num / den / f.one| = |(m : ℚ) - f.place num den| * f.spacing num den := by
  have value : f.value code = m * f.spacing num den := by
    rw [BinaryFormat.value, units, Nat.cast_mul, spacing, mul_div_assoc]
  rw [value, ← place_mul_spacing positive, ← sub_mul, abs_mul, abs_of_pos (spacing_pos f num den)]

theorem le_place (positive : 0 < den) (normal : 0 < f.binade num den) :
    (twoPow f.fractionBits : ℚ) ≤ f.place num den := by
  have spaces : (0 : ℚ) < (den * twoPow (f.binade num den) : Nat) := by
    exact_mod_cast Nat.mul_pos positive (twoPow_pos _)
  rw [place, le_div_iff₀ spaces]
  exact_mod_cast f.binade_start_le positive normal

/-- Below the binade of a quotient every value is further from it than the start. -/
theorem distance_of_below (positive : 0 < den) {code : Nat} (normal : 0 < f.binade num den)
    (below : f.units code < twoPow f.fractionBits * twoPow (f.binade num den)) :
    |(twoPow f.fractionBits : ℚ) - f.place num den| * f.spacing num den <
      |f.value code - num / den / f.one| := by
  have start := le_place positive normal
  have less : f.value code < twoPow f.fractionBits * f.spacing num den := by
    rw [value, spacing, ← mul_div_assoc]
    exact div_lt_div_of_pos_right (by exact_mod_cast below) f.one_pos
  have reaches := mul_le_mul_of_nonneg_right start (spacing_pos f num den).le
  rw [← place_mul_spacing positive, abs_of_nonpos (sub_nonpos.mpr start),
    abs_of_nonpos (by linarith)]
  linarith

/-- Encoding rounds to nearest. -/
theorem nearest_encode (even : 0 < f.fractionBits) (num : Nat) (positive : 0 < den) :
    f.Nearest (num / den / f.one) (f.encode num den) := by
  have spaces := Nat.mul_pos positive (twoPow_pos (f.binade num den))
  obtain ⟨half, ties⟩ := roundDiv_half num spaces
  have rounded := distance_of_multiple positive (f.units_encode num positive)
  -- No multiple of the spacing is nearer, and the start of the binade is one.
  have beside (m : Nat) : |(roundDiv num (den * twoPow (f.binade num den)) : ℚ) - f.place num den| ≤
      |(m : ℚ) - f.place num den| := by
    by_cases same : m = roundDiv num (den * twoPow (f.binade num den))
    · rw [same]
    · exact (other_not_nearer same half).1
  refine ⟨fun other => ?_, fun other differs tie => ?_⟩
  · rw [rounded]
    rcases multiple_or_below other (f.binade num den) with ⟨m, units⟩ | ⟨normal, below⟩
    · rw [distance_of_multiple positive units]
      exact mul_le_mul_of_nonneg_right (beside m) (spacing_pos f num den).le
    · refine le_trans ?_ (distance_of_below positive normal below).le
      exact mul_le_mul_of_nonneg_right (beside _) (spacing_pos f num den).le
  · rw [rounded] at tie
    rcases multiple_or_below other (f.binade num den) with ⟨m, units⟩ | ⟨normal, below⟩
    · have apart : m ≠ roundDiv num (den * twoPow (f.binade num den)) := by
        rintro rfl
        exact differs (units_strictMono.injective (units.trans (f.units_encode num positive).symm))
      rw [distance_of_multiple positive units, mul_left_inj' (spacing_pos f num den).ne'] at tie
      have parity := ties ((other_not_nearer apart half).2 tie)
      obtain ⟨bits, fraction⟩ := Nat.exists_eq_add_one_of_ne_zero even.ne'
      rw [encode_eq, fraction, twoPow_add, show twoPow 1 = 2 from rfl, ← Nat.mul_assoc]
      omega
    · have further := distance_of_below positive normal below
      rw [tie] at further
      exact absurd (mul_le_mul_of_nonneg_right (beside _) (spacing_pos f num den).le) (not_le.mpr further)

theorem nearest_ratio (even : 0 < f.fractionBits) (num : Nat) (positive : 0 < den) :
    f.Nearest (num / den) (f.encode (num * f.one) den) := by
  have exact : ((num * f.one : Nat) : ℚ) / den / f.one = num / den := by
    rw [Nat.cast_mul, div_right_comm, mul_div_cancel_right₀ _ f.one_pos.ne']
  rw [← exact]
  exact nearest_encode even _ positive

/-- Encoding is off by a share that the significand allows, or among the least numbers by
half a unit. -/
theorem encode_near (num : Nat) (positive : 0 < den) :
    |f.value (f.encode num den) - num / den / f.one| ≤
        num / den / f.one / (2 * twoPow f.fractionBits) ∨
      |f.value (f.encode num den) - num / den / f.one| ≤ 1 / (2 * f.one) := by
  obtain ⟨half, -⟩ := roundDiv_half num (Nat.mul_pos positive (twoPow_pos (f.binade num den)))
  have error : |f.value (f.encode num den) - num / den / f.one| ≤ f.spacing num den / 2 := by
    rw [distance_of_multiple positive (f.units_encode num positive), ← one_div_mul_eq_div]
    exact mul_le_mul_of_nonneg_right half (spacing_pos f num den).le
  rcases Nat.eq_zero_or_pos (f.binade num den) with least | normal
  · right
    have unit : f.spacing num den / 2 = 1 / (2 * f.one) := by
      rw [spacing, least, show twoPow 0 = 1 from rfl, Nat.cast_one, div_div, mul_comm]
    exact error.trans_eq unit
  · left
    have power : (0 : ℚ) < twoPow f.fractionBits := by exact_mod_cast twoPow_pos _
    have reaches := mul_le_mul_of_nonneg_right (le_place positive normal)
      (spacing_pos f num den).le
    rw [place_mul_spacing positive] at reaches
    rw [le_div_iff₀ (by positivity)]
    linarith [mul_le_mul_of_nonneg_right error (by positivity : 0 ≤ 2 * (twoPow f.fractionBits : ℚ))]

end Encode

end BinaryFormat

end WordTrack
