import WordTrack.Proofs.Rounding
import Mathlib.Algebra.Order.Field.Basic
import Mathlib.Algebra.Order.Field.Rat
import Mathlib.Data.Nat.Cast.Order.Field
import Mathlib.Tactic.FieldSimp
import Mathlib.Tactic.Linarith
import Mathlib.Tactic.Positivity

/-! The values of codes. What was encoded is rounded to a multiple of the spacing in its
binade, and whatever is nearer to a value than a quarter of its last place is encoded by
the code of that value. -/
namespace WordTrack

/-- Rounding moves a quotient by at most a half. -/
theorem roundDiv_error (num : Nat) {den : Nat} (positive : 0 < den) :
    2 * (roundDiv num den * den) ≤ 2 * num + den ∧ 2 * num ≤ 2 * (roundDiv num den * den) + den := by
  have split := Nat.div_add_mod num den
  have below := Nat.mod_lt num positive
  have even := Nat.mod_two_eq_zero_or_one (num / den)
  rw [Nat.mul_comm] at split
  simp only [roundDiv]
  split_ifs with less greater
  · omega
  · rw [Nat.add_mul]
    omega
  · rcases even with zero | one
    · rw [zero, Nat.add_zero]
      omega
    · rw [one, Nat.add_mul]
      omega

theorem roundDiv_eq {num den k : Nat} (above : 2 * (k * den) < 2 * num + den)
    (below : 2 * num < 2 * (k * den) + den) : roundDiv num den = k := by
  have positive : 0 < den := by omega
  obtain ⟨upper, lower⟩ := roundDiv_error num positive
  have atMost : roundDiv num den * den < (k + 1) * den := by
    rw [Nat.add_mul]
    omega
  have atLeast : k * den < (roundDiv num den + 1) * den := by
    rw [Nat.add_mul]
    omega
  have first := Nat.lt_of_mul_lt_mul_right atMost
  have second := Nat.lt_of_mul_lt_mul_right atLeast
  omega

namespace BinaryFormat

variable (f : BinaryFormat)

theorem units_significand {binade significand : Nat} (bound : significand ≤ 2 * twoPow f.fractionBits)
    (full : binade = 0 ∨ twoPow f.fractionBits ≤ significand) :
    f.units (binade * twoPow f.fractionBits + significand) = significand * twoPow binade := by
  have positive := twoPow_pos f.fractionBits
  rcases Nat.lt_or_ge significand (twoPow f.fractionBits) with small | large
  · obtain rfl : binade = 0 := by omega
    rw [Nat.zero_mul, Nat.zero_add, f.units_small small]
    exact (Nat.mul_one significand).symm
  · obtain ⟨r, rfl⟩ := Nat.exists_eq_add_of_le large
    rcases Nat.lt_or_ge r (twoPow f.fractionBits) with rest | carry
    · exact f.units_normal binade rest
    -- A significand rounded up to the next power of two begins the next binade.
    · obtain rfl : r = twoPow f.fractionBits := by omega
      have next := f.units_normal (binade + 1) positive
      calc f.units (binade * twoPow f.fractionBits + (twoPow f.fractionBits + twoPow f.fractionBits))
        _ = f.units ((binade + 1) * twoPow f.fractionBits + (twoPow f.fractionBits + 0)) := by
          congr 1
          ring
        _ = (twoPow f.fractionBits + twoPow f.fractionBits) * twoPow binade := by
          rw [next, twoPow_add, show twoPow 1 = 2 from rfl]
          ring

/-- The value encoded, as a multiple of the spacing in its binade. -/
theorem units_encode (num : Nat) {den : Nat} (positive : 0 < den) :
    f.units (f.encode num den) =
      roundDiv num (den * twoPow (f.binade num den)) * twoPow (f.binade num den) := by
  have spacing := Nat.mul_pos positive (twoPow_pos (f.binade num den))
  rw [encode_eq]
  apply f.units_significand
  · exact roundDiv_le spacing (f.lt_binade_end num positive).le
  · rcases Nat.eq_zero_or_pos (f.binade num den) with zero | normal
    · exact .inl zero
    · exact .inr (le_roundDiv spacing (f.binade_start_le positive normal))

/-- A quotient near to a value, in integers: the difference is less than one of so
many parts of the value. -/
theorem cross_near {u num den parts : Nat} (positive : 0 < den) (some : 0 < parts)
    (near : |(num : ℚ) / den - u| < u / parts) :
    parts * num < parts * (u * den) + u * den ∧ parts * (u * den) < parts * num + u * den := by
  have size : (0 : ℚ) < den := by exact_mod_cast positive
  have count : (0 : ℚ) < parts := by exact_mod_cast some
  obtain ⟨low, high⟩ := abs_lt.mp near
  have quotient : (num : ℚ) / den * (parts * den) = parts * num := by field_simp
  have part : (u : ℚ) / parts * (parts * den) = u * den := by field_simp
  constructor
  · have scaled := mul_lt_mul_of_pos_right high (mul_pos count size)
    have crossed : (parts * num : ℚ) < parts * (u * den) + u * den := by linarith
    exact_mod_cast crossed
  · have scaled := mul_lt_mul_of_pos_right low (mul_pos count size)
    have crossed : (parts * (u * den) : ℚ) < parts * num + u * den := by linarith
    exact_mod_cast crossed

/-- Whatever is nearer to a value than a quarter of its last place is encoded by the
code of this value. -/
theorem encode_of_near {code num den : Nat} (positive : 0 < den)
    (near : |(num : ℚ) / den - f.units code| <
      f.units code / (4 * twoPow f.fractionBits : Nat)) :
    f.encode num den = code := by
  obtain ⟨k, m, rfl, units, bound, full⟩ := f.exists_significand code
  have fraction := twoPow_pos f.fractionBits
  have spacing := Nat.mul_pos positive (twoPow_pos k)
  obtain ⟨high, low⟩ := cross_near positive (by omega) near
  rw [units, show m * twoPow k * den = m * (den * twoPow k) by ring] at high low
  have small : m * (den * twoPow k) < 2 * twoPow f.fractionBits * (den * twoPow k) :=
    Nat.mul_lt_mul_of_pos_right bound spacing
  have below : 2 * num < 2 * (m * (den * twoPow k)) + den * twoPow k := by
    apply Nat.lt_of_mul_lt_mul_left (a := 2 * twoPow f.fractionBits)
    linarith only [high, small]
  have above : 2 * (m * (den * twoPow k)) < 2 * num + den * twoPow k := by
    apply Nat.lt_of_mul_lt_mul_left (a := 2 * twoPow f.fractionBits)
    linarith only [low, small]
  by_cases start : k = 0 ∨ twoPow f.fractionBits * (den * twoPow k) ≤ num
  · have binade : f.binade num den = k := by
      apply f.binade_unique positive start
      have last := Nat.mul_le_mul_right (den * twoPow k) (Nat.succ_le_of_lt bound)
      linarith only [last, below, spacing]
    rw [encode_eq, binade, roundDiv_eq above below]
  -- Just below a power of two the spacing is half as wide.
  · obtain ⟨nonzero, beneath⟩ := not_or.mp start
    obtain ⟨j, rfl⟩ := Nat.exists_eq_add_one_of_ne_zero nonzero
    obtain rfl : m = twoPow f.fractionBits := by
      apply Nat.le_antisymm _ (full.resolve_left nonzero)
      apply Nat.le_of_lt_succ
      apply Nat.lt_of_mul_lt_mul_right (a := den * twoPow (j + 1))
      linarith only [above, beneath, spacing]
    have half : den * twoPow (j + 1) = 2 * (den * twoPow j) := by
      rw [twoPow_add, show twoPow 1 = 2 from rfl]
      ring
    rw [half] at low beneath
    have lowest : 4 * (twoPow f.fractionBits * (den * twoPow j)) < 2 * num + den * twoPow j := by
      apply Nat.lt_of_mul_lt_mul_left (a := 2 * twoPow f.fractionBits)
      linarith only [low]
    have binade : f.binade num den = j := by
      apply f.binade_unique positive
      · right
        have least := Nat.le_mul_of_pos_left (den * twoPow j) fraction
        linarith only [least, lowest]
      · linarith only [beneath]
    have rounded : roundDiv num (den * twoPow j) = 2 * twoPow f.fractionBits := by
      apply roundDiv_eq
      · linarith only [lowest]
      · linarith only [beneath, spacing, half]
    rw [encode_eq, binade, rounded]
    ring

/-- The number that a code stands for. -/
def value (code : Nat) : ℚ := f.units code / f.one

theorem one_pos : (0 : ℚ) < f.one := by exact_mod_cast twoPow_pos f.unitExponent

theorem units_eq (code : Nat) : (f.units code : ℚ) = f.value code * f.one :=
  (div_mul_cancel₀ _ f.one_pos.ne').symm

end BinaryFormat

end WordTrack
