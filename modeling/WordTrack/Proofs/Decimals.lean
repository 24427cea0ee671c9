import WordTrack.Number.Decimal
import Mathlib.Algebra.Order.Field.Basic
import Mathlib.Algebra.Order.Field.Power
import Mathlib.Algebra.Order.Field.Rat
import Mathlib.Data.List.Basic
import Mathlib.Data.Nat.Cast.Order.Field
import Mathlib.Tactic.NormNum

/-! Decimals beside a quotient. With so many significant digits the decimals form a
grid, and of its points the two beside the quotient are tried. They stand where the
leading digit of the quotient does, and the lower one misses it by less than one step. -/
namespace WordTrack

theorem tenPow_pos (n : Nat) : 0 < tenPow n := Nat.pow_pos (by decide)

theorem tenPow_succ (n : Nat) : tenPow (n + 1) = 10 * tenPow n := Nat.pow_succ'

namespace Decimal

/-- The exact value of a decimal. -/
def value (d : Decimal) : ℚ := d.coefficient * 10 ^ d.exponent

theorem value_nonneg (d : Decimal) : 0 ≤ d.value :=
  mul_nonneg (Nat.cast_nonneg _) (zpow_nonneg (by norm_num) _)

theorem wholePlaces_bounds {fuel n : Nat} (positive : 0 < n) (enough : n < tenPow fuel) :
    tenPow (wholePlaces fuel n) ≤ n ∧ n < tenPow (wholePlaces fuel n + 1) := by
  induction fuel generalizing n with
  | zero => exact absurd enough (Nat.not_lt.mpr positive)
  | succ fuel ih =>
    unfold wholePlaces
    split
    · next small => exact ⟨positive, small⟩
    · next large =>
      rw [tenPow_succ] at enough
      obtain ⟨lower, upper⟩ := ih (n := n / 10) (by omega) (by omega)
      rw [tenPow_succ] at upper
      rw [tenPow_succ, tenPow_succ, tenPow_succ]
      omega

theorem leadingPlaces_bounds {fuel num den : Nat} (small : num < 10 * den)
    (enough : den ≤ tenPow fuel * num) :
    den ≤ tenPow (leadingPlaces fuel num den) * num ∧
      tenPow (leadingPlaces fuel num den) * num < 10 * den := by
  induction fuel generalizing num with
  | zero => exact ⟨enough, by simpa [leadingPlaces, tenPow] using small⟩
  | succ fuel ih =>
    unfold leadingPlaces
    split
    · next reached => exact ⟨by simpa [tenPow] using reached, by simpa [tenPow] using small⟩
    · next fraction =>
      rw [tenPow_succ, Nat.mul_assoc, Nat.mul_left_comm] at enough
      have later := @ih (10 * num) (by omega) enough
      rwa [Nat.mul_left_comm, ← Nat.mul_assoc, ← tenPow_succ] at later

theorem cast_tenPow (n : Nat) : (tenPow n : ℚ) = 10 ^ (n : Int) := by
  rw [tenPow, zpow_natCast]
  exact_mod_cast rfl

theorem value_of_neg {d : Decimal} (negative : d.exponent < 0) :
    d.value = d.coefficient / tenPow d.exponent.natAbs := by
  have size : d.exponent = -(d.exponent.natAbs : Int) := by omega
  rw [value, cast_tenPow, div_eq_mul_inv, ← zpow_neg, ← size]

theorem value_of_nonneg {d : Decimal} (nonnegative : ¬d.exponent < 0) :
    d.value = d.coefficient * tenPow d.exponent.natAbs := by
  have size : d.exponent = d.exponent.natAbs := by omega
  rw [value, cast_tenPow, ← size]

/-- The value as a quotient of whole numbers. -/
theorem value_eq_quotient (d : Decimal) :
    0 < d.quotient.2 ∧ d.value = d.quotient.1 / d.quotient.2 := by
  unfold quotient
  split
  · next negative => exact ⟨tenPow_pos _, value_of_neg negative⟩
  · next nonnegative =>
    rw [value_of_nonneg nonnegative, Nat.cast_mul, Nat.cast_one, div_one]
    exact ⟨Nat.one_pos, rfl⟩

/-- The leading digit of a quotient stands at this power of ten. -/
theorem leadingExponent_bounds {num den : Nat} (numerator : 0 < num) (denominator : 0 < den) :
    (10 : ℚ) ^ leadingExponent num den ≤ num / den ∧
      (num : ℚ) / den < 10 ^ (leadingExponent num den + 1) := by
  have size : (0 : ℚ) < den := by exact_mod_cast denominator
  have bits (n : Nat) : n < tenPow (n.log2 + 1) :=
    Nat.lt_log2_self.trans_le (Nat.pow_le_pow_left (by decide) _)
  unfold leadingExponent
  split
  · next whole =>
    have positive : 0 < num / den := Nat.div_pos whole denominator
    obtain ⟨lower, upper⟩ := wholePlaces_bounds positive (bits (num / den))
    generalize wholePlaces ((num / den).log2 + 1) (num / den) = places at lower upper
    rw [Nat.le_div_iff_mul_le denominator] at lower
    rw [Nat.div_lt_iff_lt_mul denominator] at upper
    rw [le_div_iff₀ size, div_lt_iff₀ size, ← Nat.cast_succ, ← cast_tenPow, ← cast_tenPow]
    exact ⟨by exact_mod_cast lower, by exact_mod_cast upper⟩
  · next fraction =>
    have enough : den ≤ tenPow (den.log2 + 1) * num :=
      (bits den).le.trans (Nat.le_mul_of_pos_right _ numerator)
    obtain ⟨lower, upper⟩ := leadingPlaces_bounds (by omega) enough
    generalize leadingPlaces (den.log2 + 1) num den = places at lower upper
    have power : (0 : ℚ) < 10 ^ (places : Int) := zpow_pos (by norm_num) _
    have low : (den : ℚ) ≤ 10 ^ (places : Int) * num := by
      rw [← cast_tenPow]
      exact_mod_cast lower
    have high : 10 ^ (places : Int) * (num : ℚ) < 10 * den := by
      rw [← cast_tenPow]
      exact_mod_cast upper
    rw [zpow_add₀ (by norm_num), zpow_neg, zpow_one, le_div_iff₀ size, div_lt_iff₀ size,
      inv_mul_le_iff₀ power, mul_assoc, lt_inv_mul_iff₀ power]
    exact ⟨low, high⟩

/-- The quotient counted in whole steps of a power of ten. -/
def steps (num den : Nat) (exponent : Int) : Nat :=
  if exponent < 0 then num * tenPow exponent.natAbs / den else num / (den * tenPow exponent.natAbs)

theorem div_bounds (num : Nat) {den : Nat} (denominator : 0 < den) :
    ((num / den : Nat) : ℚ) ≤ num / den ∧ (num : ℚ) / den < (num / den : Nat) + 1 := by
  have size : (0 : ℚ) < den := by exact_mod_cast denominator
  rw [le_div_iff₀ size, div_lt_iff₀ size, mul_comm _ (den : ℚ), mul_comm _ (den : ℚ)]
  constructor
  · exact_mod_cast Nat.mul_div_le num den
  · exact_mod_cast Nat.lt_mul_div_succ num denominator

theorem steps_bounds (num : Nat) {den : Nat} (denominator : 0 < den) (exponent : Int) :
    (steps num den exponent : ℚ) * 10 ^ exponent ≤ num / den ∧
      (num : ℚ) / den < (steps num den exponent + 1) * 10 ^ exponent := by
  have power : (0 : ℚ) < 10 ^ (exponent.natAbs : Int) := zpow_pos (by norm_num) _
  unfold steps
  split
  · next negative =>
    have bounds := div_bounds (num * tenPow exponent.natAbs) denominator
    rw [Nat.cast_mul, cast_tenPow, mul_div_right_comm] at bounds
    have inverse : (10 : ℚ) ^ exponent = (10 ^ (exponent.natAbs : Int))⁻¹ := by
      rw [← zpow_neg]
      congr 1
      omega
    rw [inverse, mul_inv_le_iff₀ power, lt_mul_inv_iff₀ power]
    exact bounds
  · next nonnegative =>
    have bounds := div_bounds num (Nat.mul_pos denominator (tenPow_pos exponent.natAbs))
    have same : exponent = exponent.natAbs := by omega
    rw [Nat.cast_mul, cast_tenPow, ← div_div, le_div_iff₀ power, div_lt_iff₀ power, ← same] at bounds
    exact bounds

/-- The exponent of the last of so many significant digits of a quotient. -/
def lastExponent (num den count : Nat) : Int := leadingExponent num den - count + 1

/-- The greatest decimal of so many digits that is not above a quotient. -/
def below (num den count : Nat) : Decimal :=
  ⟨steps num den (lastExponent num den count), lastExponent num den count⟩

/-- The next decimal on the same grid, with fewer digits if it is a power of ten. -/
def above (num den count : Nat) : Decimal :=
  if steps num den (lastExponent num den count) + 1 = tenPow count then
    ⟨1, lastExponent num den count + count⟩
  else ⟨steps num den (lastExponent num den count) + 1, lastExponent num den count⟩

theorem mem_neighbours {up : Nat → Bool} {num den count : Nat} {d : Decimal} :
    d ∈ neighbours up num den count ↔ d = below num den count ∨ d = above num den count := by
  unfold neighbours below above steps lastExponent
  by_cases negative : leadingExponent num den - count + 1 < 0
  · simp only [negative, if_true]
    split
    · exact List.mem_pair
    · exact List.mem_pair.trans or_comm
  · simp only [negative, if_false]
    split
    · exact List.mem_pair
    · exact List.mem_pair.trans or_comm

theorem scale_lastExponent (num den count : Nat) :
    (10 : ℚ) ^ (count : Int) * 10 ^ lastExponent num den count =
      10 ^ (leadingExponent num den + 1) := by
  rw [← zpow_add₀ (by norm_num), lastExponent]
  congr 1
  omega

theorem le_steps {num den : Nat} (numerator : 0 < num) (denominator : 0 < den) (count : Nat) :
    tenPow count ≤ steps num den (lastExponent num den (count + 1)) := by
  obtain ⟨lower, -⟩ := leadingExponent_bounds numerator denominator
  obtain ⟨-, upper⟩ := steps_bounds num denominator (lastExponent num den (count + 1))
  have power : (0 : ℚ) < 10 ^ lastExponent num den (count + 1) := zpow_pos (by norm_num) _
  have scale := scale_lastExponent num den (count + 1)
  rw [zpow_add₀ (by norm_num) (leadingExponent num den), Nat.cast_succ,
    zpow_add₀ (by norm_num), mul_right_comm, zpow_one, mul_left_inj' (by norm_num)] at scale
  have less := lower.trans_lt upper
  rw [← scale, mul_lt_mul_iff_left₀ power, ← cast_tenPow] at less
  have digits : tenPow count < steps num den (lastExponent num den (count + 1)) + 1 := by
    exact_mod_cast less
  exact Nat.le_of_lt_succ digits

/-- Cutting a quotient off after some digits takes less than one step of the last, and
of these steps the digits left are many. -/
theorem below_bounds {num den : Nat} (numerator : 0 < num) (denominator : 0 < den) (count : Nat) :
    (below num den (count + 1)).value ≤ num / den ∧
      (num : ℚ) / den < (below num den (count + 1)).value + 10 ^ lastExponent num den (count + 1) ∧
      tenPow count * 10 ^ lastExponent num den (count + 1) ≤ (below num den (count + 1)).value := by
  obtain ⟨lower, upper⟩ := steps_bounds num denominator (lastExponent num den (count + 1))
  have full : (tenPow count : ℚ) ≤ steps num den (lastExponent num den (count + 1)) := by
    exact_mod_cast le_steps numerator denominator count
  rw [add_mul, one_mul] at upper
  exact ⟨lower, upper, mul_le_mul_of_nonneg_right full (zpow_nonneg (by norm_num) _)⟩

theorem coefficient_pos_of_mem {num den : Nat} (numerator : 0 < num) (denominator : 0 < den)
    {up : Nat → Bool} {count : Nat} {d : Decimal} (member : d ∈ neighbours up num den (count + 1)) :
    0 < d.coefficient := by
  rcases mem_neighbours.mp member with rfl | rfl
  · exact (tenPow_pos count).trans_le (le_steps numerator denominator count)
  · unfold above
    split <;> exact Nat.succ_pos _

/-- Where a neighbour of most digits reads back, the shortest decimal does, and it is
a neighbour itself. -/
theorem shortest_mem {up : Nat → Bool} {readsBack : Decimal → Bool} {num den : Nat} {d : Decimal}
    (member : d ∈ neighbours up num den enough) (accepted : readsBack d = true) :
    readsBack (shortest up readsBack num den) = true ∧
      ∃ count, shortest up readsBack num den ∈ neighbours up num den (count + 1) := by
  unfold shortest
  simp only
  split
  · next found same =>
    obtain ⟨n, -, near⟩ := List.mem_flatMap.mp (List.mem_of_find?_eq_some same)
    exact ⟨List.find?_some same, n, near⟩
  · next none =>
    have candidate : d ∈ (List.range enough).flatMap fun n => neighbours up num den (n + 1) :=
      List.mem_flatMap.mpr ⟨8, by decide, member⟩
    exact absurd accepted (List.find?_eq_none.mp none d candidate)

end Decimal

end WordTrack
