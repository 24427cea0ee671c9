import WordTrack.Number.Binary32
import Mathlib.Algebra.Order.Ring.Nat
import Mathlib.Tactic.Ring

/-! Rounding keeps order and is exact on the values of a format. Sums of
single-precision numbers are therefore ordered as their operands are. -/
namespace WordTrack

theorem twoPow_pos (n : Nat) : 0 < twoPow n := Nat.two_pow_pos n

theorem twoPow_mono {m n : Nat} (below : m ≤ n) : twoPow m ≤ twoPow n :=
  Nat.pow_le_pow_right (by decide) below

theorem twoPow_add (m n : Nat) : twoPow (m + n) = twoPow m * twoPow n := Nat.pow_add 2 m n

theorem div_le_roundDiv (num den : Nat) : num / den ≤ roundDiv num den := by
  simp only [roundDiv]
  split_ifs <;> omega

theorem roundDiv_le_succ (num den : Nat) : roundDiv num den ≤ num / den + 1 := by
  simp only [roundDiv]
  split_ifs <;> omega

theorem le_roundDiv {num den k : Nat} (positive : 0 < den) (above : k * den ≤ num) :
    k ≤ roundDiv num den :=
  ((Nat.le_div_iff_mul_le positive).mpr above).trans (div_le_roundDiv num den)

theorem roundDiv_le {num den k : Nat} (positive : 0 < den) (below : num ≤ k * den) :
    roundDiv num den ≤ k := by
  have split := Nat.div_add_mod num den
  have quotient : num / den ≤ k := Nat.div_le_of_le_mul (by rwa [Nat.mul_comm])
  rcases Nat.lt_or_eq_of_le quotient with less | same
  · exact (roundDiv_le_succ num den).trans less
  · have exact : num % den = 0 := by
      rw [same, Nat.mul_comm] at split
      omega
    simp [roundDiv, exact, positive, same]

theorem roundDiv_mul (k : Nat) {den : Nat} (positive : 0 < den) : roundDiv (k * den) den = k :=
  Nat.le_antisymm (roundDiv_le positive (Nat.le_refl _)) (le_roundDiv positive (Nat.le_refl _))

theorem roundDiv_mono {a b : Nat} (den : Nat) (below : a ≤ b) :
    roundDiv a den ≤ roundDiv b den := by
  have quotients := Nat.div_le_div_right (c := den) below
  rcases Nat.lt_or_eq_of_le quotients with less | same
  · calc roundDiv a den
      _ ≤ a / den + 1 := roundDiv_le_succ a den
      _ ≤ b / den := less
      _ ≤ roundDiv b den := div_le_roundDiv b den
  · have remainders : a % den ≤ b % den := by
      have first := Nat.div_add_mod a den
      have second := Nat.div_add_mod b den
      rw [same] at first
      omega
    simp only [roundDiv, same]
    split_ifs <;> omega

namespace BinaryFormat

variable (f : BinaryFormat)

/-- The binade in which a quotient is encoded. -/
def binade (num den : Nat) : Nat := (num / den).log2 - f.fractionBits

theorem encode_eq (num den : Nat) :
    f.encode num den =
      f.binade num den * twoPow f.fractionBits +
        roundDiv num (den * twoPow (f.binade num den)) := rfl

theorem binade_mono {a b : Nat} (den : Nat) (below : a ≤ b) : f.binade a den ≤ f.binade b den := by
  have quotients := Nat.div_le_div_right (c := den) below
  have logs : (a / den).log2 ≤ (b / den).log2 := by
    by_cases zero : a / den = 0
    · simp [zero]
    · have nonzero : b / den ≠ 0 := ((Nat.pos_of_ne_zero zero).trans_le quotients).ne'
      exact (Nat.le_log2 nonzero).mpr ((Nat.log2_self_le zero).trans quotients)
  exact Nat.sub_le_sub_right logs _

/-- A quotient ends before the end of its binade. -/
theorem lt_binade_end (num : Nat) {den : Nat} (positive : 0 < den) :
    num < 2 * twoPow f.fractionBits * (den * twoPow (f.binade num den)) := by
  have log : (num / den).log2 + 1 ≤ f.binade num den + (f.fractionBits + 1) := by
    unfold binade
    omega
  have quotient : num / den < twoPow (f.binade num den + (f.fractionBits + 1)) :=
    Nat.lt_log2_self.trans_le (Nat.pow_le_pow_right (by decide) log)
  have scaled := (Nat.div_lt_iff_lt_mul positive).mp quotient
  rw [twoPow_add, twoPow_add] at scaled
  calc num
    _ < _ := scaled
    _ = _ := by rw [show twoPow 1 = 2 from rfl]; ring

/-- A quotient outside the first binade is not below the start of its own. -/
theorem binade_start_le {num den : Nat} (positive : 0 < den) (normal : 0 < f.binade num den) :
    twoPow f.fractionBits * (den * twoPow (f.binade num den)) ≤ num := by
  have log : (num / den).log2 = f.binade num den + f.fractionBits := by
    unfold binade at *
    omega
  have nonzero : num / den ≠ 0 := by
    intro zero
    simp [binade, zero] at normal
  have quotient : twoPow (f.binade num den + f.fractionBits) ≤ num / den := by
    rw [← log]
    exact Nat.log2_self_le nonzero
  have scaled := (Nat.le_div_iff_mul_le positive).mp quotient
  rw [twoPow_add] at scaled
  calc twoPow f.fractionBits * (den * twoPow (f.binade num den))
    _ = _ := by ring
    _ ≤ num := scaled

theorem encode_le_binade (num : Nat) {den : Nat} (positive : 0 < den) :
    f.encode num den ≤ (f.binade num den + 2) * twoPow f.fractionBits := by
  have rounded := roundDiv_le (Nat.mul_pos positive (twoPow_pos _)) (f.lt_binade_end num positive).le
  rw [encode_eq, Nat.add_mul]
  omega

theorem binade_le_encode {num den : Nat} (positive : 0 < den) (normal : 0 < f.binade num den) :
    (f.binade num den + 1) * twoPow f.fractionBits ≤ f.encode num den := by
  have rounded := le_roundDiv (Nat.mul_pos positive (twoPow_pos _)) (f.binade_start_le positive normal)
  rw [encode_eq, Nat.add_mul]
  omega

/-- Encoding keeps order. Within a binade this is rounding; between two of them
the codes of the lower one end where those of the upper one begin. -/
theorem encode_mono {a b den : Nat} (positive : 0 < den) (below : a ≤ b) :
    f.encode a den ≤ f.encode b den := by
  rcases Nat.lt_or_eq_of_le (f.binade_mono den below) with less | same
  · calc f.encode a den
      _ ≤ (f.binade a den + 2) * twoPow f.fractionBits := f.encode_le_binade a positive
      _ ≤ (f.binade b den + 1) * twoPow f.fractionBits := Nat.mul_le_mul_right _ (by omega)
      _ ≤ f.encode b den := f.binade_le_encode positive (by omega)
  · rw [encode_eq, encode_eq, same]
    exact Nat.add_le_add_left (roundDiv_mono _ below) _

theorem units_small {code : Nat} (small : code < twoPow f.fractionBits) : f.units code = code := by
  simp only [units, Nat.div_eq_of_lt small, Nat.zero_sub, Nat.zero_mul, Nat.sub_zero]
  exact Nat.mul_one code

theorem units_zero : f.units 0 = 0 := f.units_small (twoPow_pos _)

theorem units_normal (k : Nat) {r : Nat} (rest : r < twoPow f.fractionBits) :
    f.units (k * twoPow f.fractionBits + (twoPow f.fractionBits + r)) =
      (twoPow f.fractionBits + r) * twoPow k := by
  have quotient : (k * twoPow f.fractionBits + (twoPow f.fractionBits + r)) /
      twoPow f.fractionBits = k + 1 := by
    rw [← Nat.add_assoc, ← Nat.succ_mul, Nat.mul_comm, Nat.mul_add_div (twoPow_pos _),
      Nat.div_eq_of_lt rest]
  simp only [units, quotient, Nat.add_sub_cancel, Nat.add_sub_cancel_left]

/-- A value is a significand times the spacing of its binade; the significand is
full except in the first binade. -/
theorem exists_significand (code : Nat) :
    ∃ binade significand, code = binade * twoPow f.fractionBits + significand ∧
      f.units code = significand * twoPow binade ∧ significand < 2 * twoPow f.fractionBits ∧
      (binade = 0 ∨ twoPow f.fractionBits ≤ significand) := by
  rcases Nat.lt_or_ge code (twoPow f.fractionBits) with small | normal
  · refine ⟨0, code, by omega, ?_, by omega, .inl rfl⟩
    rw [f.units_small small]
    exact (Nat.mul_one code).symm
  · have whole := Nat.div_add_mod (code - twoPow f.fractionBits) (twoPow f.fractionBits)
    have rest := Nat.mod_lt (code - twoPow f.fractionBits) (twoPow_pos f.fractionBits)
    generalize (code - twoPow f.fractionBits) / twoPow f.fractionBits = k at whole
    generalize (code - twoPow f.fractionBits) % twoPow f.fractionBits = r at whole rest
    obtain rfl : code = k * twoPow f.fractionBits + (twoPow f.fractionBits + r) := by
      rw [Nat.mul_comm]
      omega
    exact ⟨k, twoPow f.fractionBits + r, rfl, f.units_normal k rest, by omega, .inr (by omega)⟩

theorem le_of_binades {m n den num : Nat}
    (start : m = 0 ∨ twoPow f.fractionBits * (den * twoPow m) ≤ num)
    (finish : num < 2 * twoPow f.fractionBits * (den * twoPow n)) : m ≤ n := by
  rcases start with rfl | start
  · exact Nat.zero_le n
  · have scaled : twoPow f.fractionBits * den * twoPow m < twoPow f.fractionBits * den * twoPow (n + 1) := by
      calc twoPow f.fractionBits * den * twoPow m
        _ = twoPow f.fractionBits * (den * twoPow m) := by ring
        _ < 2 * twoPow f.fractionBits * (den * twoPow n) := start.trans_lt finish
        _ = twoPow f.fractionBits * den * twoPow (n + 1) := by
          rw [twoPow_add, show twoPow 1 = 2 from rfl]
          ring
    have powers : 2 ^ m < 2 ^ (n + 1) := Nat.lt_of_mul_lt_mul_left scaled
    exact Nat.le_of_lt_succ ((Nat.pow_lt_pow_iff_right (by decide)).mp powers)

/-- Each quotient lies in one binade only. -/
theorem binade_unique {binade num den : Nat} (positive : 0 < den)
    (start : binade = 0 ∨ twoPow f.fractionBits * (den * twoPow binade) ≤ num)
    (finish : num < 2 * twoPow f.fractionBits * (den * twoPow binade)) :
    f.binade num den = binade := by
  apply Nat.le_antisymm
  · refine f.le_of_binades ?_ finish
    rcases Nat.eq_zero_or_pos (f.binade num den) with zero | normal
    · exact .inl zero
    · exact .inr (f.binade_start_le positive normal)
  · exact f.le_of_binades start (f.lt_binade_end num positive)

/-- A value of the format is encoded by its own code. -/
theorem encode_units (code : Nat) : f.encode (f.units code) 1 = code := by
  obtain ⟨k, m, rfl, units, bound, full⟩ := f.exists_significand code
  have spacing := twoPow_pos k
  have binade : f.binade (m * twoPow k) 1 = k := by
    apply f.binade_unique Nat.one_pos
    · rw [Nat.one_mul]
      exact full.imp_right (Nat.mul_le_mul_right _)
    · rw [Nat.one_mul]
      exact Nat.mul_lt_mul_of_pos_right bound spacing
  rw [units, encode_eq, binade, Nat.one_mul, roundDiv_mul _ spacing]

theorem units_mono {a b : Nat} (below : a ≤ b) : f.units a ≤ f.units b := by
  by_contra above
  have codes := f.encode_mono Nat.one_pos (Nat.le_of_not_le above)
  rw [encode_units, encode_units] at codes
  obtain rfl := Nat.le_antisymm below codes
  exact above (Nat.le_refl _)

/-- The code nearest to some units, or the first one past the finite ones. -/
def saturate (units : Nat) : Nat := min (f.encode units 1) f.top

theorem saturate_mono {a b : Nat} (below : a ≤ b) : f.saturate a ≤ f.saturate b :=
  min_le_min_right _ (f.encode_mono Nat.one_pos below)

theorem saturate_units {code : Nat} (finite : code < f.top) : f.saturate (f.units code) = code := by
  rw [saturate, encode_units]
  exact Nat.min_eq_left finite.le

theorem saturate_zero : f.saturate 0 = 0 := by
  have exact := f.encode_units 0
  rw [units_zero] at exact
  rw [saturate, exact, Nat.zero_min]

/-- Nothing is rounded away: a format has its least unit. -/
theorem saturate_pos {units : Nat} (fraction : 1 < twoPow f.fractionBits) (finite : 1 < f.top)
    (positive : 0 < units) : 0 < f.saturate units := by
  have least : f.saturate (f.units 1) = 1 := f.saturate_units finite
  rw [f.units_small fraction] at least
  calc 0
    _ < f.saturate 1 := by omega
    _ ≤ f.saturate units := f.saturate_mono positive

end BinaryFormat

namespace Binary32

/-- Numbers compare as their ranks do, and a not-a-number has none. -/
theorem compareWith_iff {p : Int → Int → Prop} [∀ x y, Decidable (p x y)] {a b : Binary32} :
    compareWith (fun x y => decide (p x y)) a b = true ↔
      ∃ x y, a.rank = some x ∧ b.rank = some y ∧ p x y := by
  unfold compareWith
  constructor
  · intro compared
    match first : a.rank, second : b.rank with
    | some x, some y =>
      rw [first, second] at compared
      exact ⟨x, y, rfl, rfl, of_decide_eq_true compared⟩
    | some _, none => rw [first, second] at compared; contradiction
    | none, _ => rw [first] at compared; contradiction
  · rintro ⟨x, y, first, second, holds⟩
    rw [first, second]
    exact decide_eq_true holds

theorem le_iff {a b : Binary32} :
    a ≤ b ↔ ∃ x y, a.rank = some x ∧ b.rank = some y ∧ x ≤ y := compareWith_iff

theorem lt_iff {a b : Binary32} :
    a < b ↔ ∃ x y, a.rank = some x ∧ b.rank = some y ∧ x < y := compareWith_iff

theorem zero_eq : (0 : Binary32) = zero false := rfl

theorem rank_zero : (0 : Binary32).rank = some 0 := by
  rw [zero_eq]
  rfl

theorem isNaN_of_le {a b : Binary32} (below : a ≤ b) : a.isNaN = false := by
  obtain ⟨x, y, rank, -, -⟩ := le_iff.mp below
  cases a with
  | nan => contradiction
  | infinite | finite => rfl

theorem isNaN_of_ge {a b : Binary32} (above : a ≤ b) : b.isNaN = false := by
  obtain ⟨x, y, -, rank, -⟩ := le_iff.mp above
  cases b with
  | nan => contradiction
  | infinite | finite => rfl

theorem le_refl {a : Binary32} (number : a.isNaN = false) : a ≤ a := by
  cases a with
  | nan => contradiction
  | infinite | finite => exact le_iff.mpr ⟨_, _, rfl, rfl, Int.le_refl _⟩

theorem le_of_lt {a b : Binary32} (below : a < b) : a ≤ b := by
  obtain ⟨x, y, first, second, less⟩ := lt_iff.mp below
  exact le_iff.mpr ⟨x, y, first, second, less.le⟩

theorem le_trans {a b c : Binary32} (first : a ≤ b) (second : b ≤ c) : a ≤ c := by
  obtain ⟨x, y, rankA, rankB, lower⟩ := le_iff.mp first
  obtain ⟨y', z, rankB', rankC, upper⟩ := le_iff.mp second
  rw [rankB, Option.some.injEq] at rankB'
  exact le_iff.mpr ⟨x, z, rankA, rankC, by omega⟩

theorem min_le_right {b : Binary32} (number : b.isNaN = false) (a : Binary32) : a.min b ≤ b := by
  rw [Binary32.min, if_neg (by simp [number])]
  split
  · next less => exact le_of_lt less
  · exact le_refl number

theorem le_max_right {b : Binary32} (number : b.isNaN = false) (a : Binary32) : b ≤ a.max b := by
  rw [Binary32.max, if_neg (by simp [number])]
  split
  · next less => exact le_of_lt less
  · exact le_refl number

theorem max_le {a b c : Binary32} (first : a ≤ c) (second : b ≤ c) : a.max b ≤ c := by
  unfold Binary32.max
  split_ifs
  · exact first
  · exact first
  · exact second

theorem le_min {a b c : Binary32} (first : c ≤ a) (second : c ≤ b) : c ≤ a.min b := by
  unfold Binary32.min
  split_ifs
  · exact first
  · exact first
  · exact second

theorem isFinite_iff {a : Binary32} :
    a.isFinite = true ↔ ∃ negative code, a = .finite negative code := by
  constructor
  · intro finite
    cases a with
    | nan => contradiction
    | infinite => contradiction
    | finite negative code => exact ⟨negative, code, rfl⟩
  · rintro ⟨negative, code, rfl⟩
    rfl

theorem isNaN_of_isFinite {a : Binary32} (finite : a.isFinite = true) : a.isNaN = false := by
  obtain ⟨negative, code, rfl⟩ := isFinite_iff.mp finite
  rfl

theorem isFinite_zero : (0 : Binary32).isFinite = true := by
  rw [zero_eq]
  rfl

theorem rank_of_isNaN {a : Binary32} (number : a.isNaN = false) : ∃ x, a.rank = some x := by
  cases a with
  | nan => contradiction
  | infinite | finite => exact ⟨_, rfl⟩

theorem le_of_not_lt {a b : Binary32} (first : a.isNaN = false) (second : b.isNaN = false)
    (not : ¬a < b) : b ≤ a := by
  obtain ⟨x, rankA⟩ := rank_of_isNaN first
  obtain ⟨y, rankB⟩ := rank_of_isNaN second
  refine le_iff.mpr ⟨y, x, rankB, rankA, ?_⟩
  by_contra above
  exact not (lt_iff.mpr ⟨x, y, rankA, rankB, Int.not_le.mp above⟩)

theorem min_le_left {a : Binary32} (number : a.isNaN = false) (b : Binary32) : a.min b ≤ a := by
  unfold Binary32.min
  split_ifs with nan less
  · exact le_refl number
  · exact le_refl number
  · exact le_of_not_lt number (Bool.eq_false_iff.mpr nan) less

theorem le_max_left {a : Binary32} (number : a.isNaN = false) (b : Binary32) : a ≤ a.max b := by
  unfold Binary32.max
  split_ifs with nan less
  · exact le_refl number
  · exact le_refl number
  · exact le_of_not_lt (Bool.eq_false_iff.mpr nan) number less

theorem not_le_of_lt {a b : Binary32} (less : a < b) : ¬b ≤ a := by
  intro below
  obtain ⟨x, y, rankA, rankB, ranks⟩ := lt_iff.mp less
  obtain ⟨y', x', rankB', rankA', ranks'⟩ := le_iff.mp below
  rw [rankA, Option.some.injEq] at rankA'
  rw [rankB, Option.some.injEq] at rankB'
  omega

/-- Keeping a number between a floor below zero and zero puts it on the floor only
if it was there or below. A not-a-number goes to zero. -/
theorem le_of_clamp_le {floor : Binary32} (low : floor < 0) {a : Binary32}
    (clamped : (a.min 0).max floor ≤ floor) : a ≤ floor := by
  have zero : (0 : Binary32).isNaN = false := isNaN_of_isFinite isFinite_zero
  have number : floor.isNaN = false := isNaN_of_le (le_of_lt low)
  rw [Binary32.max, if_neg (by simp [number])] at clamped
  split at clamped
  · next above => exact absurd clamped (not_le_of_lt above)
  · next notAbove =>
    rw [Binary32.min, if_neg (by simp [zero])] at notAbove
    split at notAbove
    · next negative => exact le_of_not_lt number (isNaN_of_le (le_of_lt negative)) notAbove
    · contradiction

theorem clamp_le_iff {floor : Binary32} (low : floor < 0) {a : Binary32} :
    (a.min 0).max floor ≤ floor ↔ a ≤ floor := by
  constructor
  · exact le_of_clamp_le low
  · intro below
    have lower : a.min 0 ≤ floor := le_trans (min_le_left (isNaN_of_le below) 0) below
    exact max_le lower (le_refl (isNaN_of_le (le_of_lt low)))

/-- Infinities are at the ends of the line. -/
theorem isFinite_of_between {a b c : Binary32} (first : a.isFinite = true)
    (last : c.isFinite = true) (above : a ≤ b) (below : b ≤ c) : b.isFinite = true := by
  obtain ⟨p, m, rfl⟩ := isFinite_iff.mp first
  obtain ⟨q, n, rfl⟩ := isFinite_iff.mp last
  obtain ⟨x, y, low, middle, lower⟩ := le_iff.mp above
  obtain ⟨y', z, middle', high, upper⟩ := le_iff.mp below
  have small := m.isLt
  have large := n.isLt
  cases b with
  | nan => contradiction
  | finite => rfl
  | infinite negative =>
    simp only [rank, Option.some.injEq] at low middle middle' high
    split_ifs at low middle middle' high <;> omega

theorem rank_ofUnits (negative : Bool) (units : Nat) :
    (ofUnits negative units 1).rank =
      some (if negative then -(BinaryFormat.single.saturate units : Int)
        else BinaryFormat.single.saturate units) := by
  unfold ofUnits ofCode BinaryFormat.saturate
  split
  · next finite => rw [Nat.min_eq_left finite.le]; rfl
  · next infinite => rw [Nat.min_eq_right (Nat.le_of_not_lt infinite)]; rfl

/-- The rank of the number nearest to some units. -/
def roundRank (units : Int) : Int :=
  if units < 0 then -(BinaryFormat.single.saturate units.natAbs : Int)
  else BinaryFormat.single.saturate units.natAbs

theorem roundRank_mono {m n : Int} (below : m ≤ n) : roundRank m ≤ roundRank n := by
  simp only [roundRank]
  split_ifs
  · have sizes := BinaryFormat.single.saturate_mono (show n.natAbs ≤ m.natAbs by omega)
    omega
  · omega
  · omega
  · have sizes := BinaryFormat.single.saturate_mono (show m.natAbs ≤ n.natAbs by omega)
    omega

theorem roundRank_zero : roundRank 0 = 0 := by
  rw [roundRank, Int.natAbs_zero, BinaryFormat.saturate_zero]
  rfl

theorem roundRank_neg {units : Int} (negative : units < 0) : roundRank units < 0 := by
  have size : 0 < BinaryFormat.single.saturate units.natAbs :=
    BinaryFormat.single.saturate_pos (by decide) (by decide) (by omega)
  rw [roundRank, if_pos negative]
  omega

theorem signedUnits_false (code : Nat) :
    signedUnits false code = BinaryFormat.single.units code := by
  simp [signedUnits]

theorem signedUnits_true (code : Nat) :
    signedUnits true code = -(BinaryFormat.single.units code : Int) := by
  simp [signedUnits]

theorem roundRank_signedUnits (negative : Bool) (code : Fin BinaryFormat.single.top) :
    roundRank (signedUnits negative code) = if negative then -(code : Int) else code := by
  have exact := BinaryFormat.single.saturate_units code.isLt
  cases negative with
  | false =>
    rw [signedUnits_false, roundRank, if_neg (by omega), Int.natAbs_natCast, exact]
    simp
  | true =>
    rw [signedUnits_true, if_pos (by rfl)]
    rcases Nat.eq_zero_or_pos (BinaryFormat.single.units code) with zero | positive
    · have none : (code : Nat) = 0 := by
        rw [← exact, zero, BinaryFormat.saturate_zero]
      rw [zero, none, Int.natCast_zero, Int.neg_zero]
      exact roundRank_zero
    · rw [roundRank, if_pos (by omega), Int.natAbs_neg, Int.natAbs_natCast, exact]

/-- A finite sum has the rank of its exact value, rounded. -/
theorem rank_add (p q : Bool) (a b : Fin BinaryFormat.single.top) :
    (finite p a + finite q b).rank = some (roundRank (signedUnits p a + signedUnits q b)) := by
  change (add (finite p a) (finite q b)).rank = _
  simp only [add]
  split_ifs with zero
  · rw [zero, roundRank_zero]
    cases p <;> cases q <;> rfl
  · rw [rank_ofUnits, roundRank]
    simp only [decide_eq_true_eq]

theorem signedUnits_not (negative : Bool) (code : Nat) :
    signedUnits (!negative) code = -signedUnits negative code := by
  cases negative with
  | false => rw [signedUnits_false, Bool.not_false, signedUnits_true]
  | true => rw [signedUnits_true, Bool.not_true, signedUnits_false, Int.neg_neg]

theorem rank_sub (p q : Bool) (a b : Fin BinaryFormat.single.top) :
    (finite p a - finite q b).rank = some (roundRank (signedUnits p a - signedUnits q b)) := by
  change (finite p a + finite (!q) b).rank = _
  rw [rank_add, signedUnits_not, Int.sub_eq_add_neg]

theorem signedUnits_mono {p q : Bool} {a b : Fin BinaryFormat.single.top}
    (below : finite p a ≤ finite q b) : signedUnits p a ≤ signedUnits q b := by
  obtain ⟨x, y, first, second, ranks⟩ := le_iff.mp below
  simp only [rank, Option.some.injEq] at first second
  cases p with
  | false =>
    rw [if_neg Bool.false_ne_true] at first
    cases q with
    | false =>
      rw [if_neg Bool.false_ne_true] at second
      have sizes := BinaryFormat.single.units_mono (show (a : Nat) ≤ b by omega)
      rw [signedUnits_false, signedUnits_false]
      exact Int.ofNat_le.mpr sizes
    | true =>
      -- Only the two zeros are ordered this way round.
      rw [if_pos (by rfl)] at second
      have left : (a : Nat) = 0 := by omega
      have right : (b : Nat) = 0 := by omega
      rw [signedUnits_false, signedUnits_true, left, right, BinaryFormat.units_zero]
      exact Int.le_refl 0
  | true =>
    rw [if_pos (by rfl)] at first
    cases q with
    | false =>
      rw [signedUnits_true, signedUnits_false]
      omega
    | true =>
      rw [if_pos (by rfl)] at second
      have sizes := BinaryFormat.single.units_mono (show (b : Nat) ≤ a by omega)
      rw [signedUnits_true, signedUnits_true]
      exact Int.neg_le_neg (Int.ofNat_le.mpr sizes)

theorem signedUnits_strictMono {p q : Bool} {a b : Fin BinaryFormat.single.top}
    (less : finite p a < finite q b) : signedUnits p a < signedUnits q b := by
  apply lt_of_le_of_ne
  · exact signedUnits_mono (le_of_lt less)
  · intro same
    obtain ⟨x, y, first, second, ranks⟩ := lt_iff.mp less
    -- A rank is the rounded value, so equal values have equal ranks.
    have equal : (finite p a).rank = (finite q b).rank := by
      simp only [rank, ← roundRank_signedUnits, same]
    rw [first, second, Option.some.injEq] at equal
    omega

/-- Sums of finite numbers are ordered as their operands are. -/
theorem add_le_add {a b c d : Binary32} (finiteA : a.isFinite = true) (finiteB : b.isFinite = true)
    (finiteC : c.isFinite = true) (finiteD : d.isFinite = true) (first : a ≤ b) (second : c ≤ d) :
    a + c ≤ b + d := by
  obtain ⟨p, i, rfl⟩ := isFinite_iff.mp finiteA
  obtain ⟨q, j, rfl⟩ := isFinite_iff.mp finiteB
  obtain ⟨r, k, rfl⟩ := isFinite_iff.mp finiteC
  obtain ⟨s, l, rfl⟩ := isFinite_iff.mp finiteD
  have units := Int.add_le_add (signedUnits_mono first) (signedUnits_mono second)
  exact le_iff.mpr ⟨_, _, rank_add p r i k, rank_add q s j l, roundRank_mono units⟩

theorem rank_zero_add {a : Binary32} (finite : a.isFinite = true) : (0 + a).rank = a.rank := by
  obtain ⟨p, i, rfl⟩ := isFinite_iff.mp finite
  rw [zero_eq, zero, rank_add, signedUnits_false, BinaryFormat.units_zero, Int.natCast_zero, Int.zero_add,
    roundRank_signedUnits]
  rfl

theorem add_comm (a b : Binary32) : a + b = b + a := by
  change a.add b = b.add a
  cases a with
  | nan => cases b <;> rfl
  | infinite p =>
    cases b with
    | nan | finite => rfl
    | infinite q => cases p <;> cases q <;> rfl
  | finite p i =>
    cases b with
    | nan | infinite => rfl
    | finite q j => simp only [add, Int.add_comm, Bool.and_comm]

theorem le_infinite {a : Binary32} (finite : a.isFinite = true) : a ≤ .infinite false := by
  obtain ⟨p, i, rfl⟩ := isFinite_iff.mp finite
  have small := i.isLt
  refine le_iff.mpr ⟨_, BinaryFormat.single.top, rfl, rfl, ?_⟩
  split <;> omega

/-- Adding what is not negative never gives less, however the sum is rounded. -/
theorem le_add_right {a b : Binary32} (finite : a.isFinite = true) (nonneg : 0 ≤ b) : a ≤ a + b := by
  cases b with
  | nan => contradiction
  | infinite q =>
    cases q with
    | true =>
      rw [zero_eq] at nonneg
      exact absurd nonneg (by decide)
    | false =>
      obtain ⟨p, i, rfl⟩ := isFinite_iff.mp finite
      exact le_infinite finite
  | finite q j =>
    have same : a ≤ a := le_refl (isNaN_of_isFinite finite)
    have sums := add_le_add finite finite isFinite_zero rfl same nonneg
    obtain ⟨x, y, first, second, ordered⟩ := le_iff.mp sums
    rw [add_comm, rank_zero_add finite] at first
    exact le_iff.mpr ⟨x, y, first, second, ordered⟩

theorem le_add_left {a b : Binary32} (finite : a.isFinite = true) (nonneg : 0 ≤ a)
    (number : b.isNaN = false) : b ≤ a + b := by
  cases b with
  | nan => contradiction
  | infinite q =>
    obtain ⟨p, i, rfl⟩ := isFinite_iff.mp finite
    exact le_refl number
  | finite q j =>
    rw [add_comm]
    exact le_add_right rfl nonneg

theorem rank_sub_self {a : Binary32} (finite : a.isFinite = true) : (a - a).rank = some 0 := by
  obtain ⟨p, i, rfl⟩ := isFinite_iff.mp finite
  rw [rank_sub, Int.sub_self, roundRank_zero]

/-- A finite number less a greater one lies between the negated one and zero. -/
theorem sub_between {a b : Binary32} (finiteA : a.isFinite = true) (finiteB : b.isFinite = true)
    (nonneg : 0 ≤ a) (below : a ≤ b) : (a - b).isFinite = true ∧ -b ≤ a - b ∧ a - b ≤ 0 := by
  have finite : (-b).isFinite = true := by
    obtain ⟨q, j, rfl⟩ := isFinite_iff.mp finiteB
    rfl
  have same : -b ≤ -b := le_refl (isNaN_of_isFinite finite)
  have lower : -b ≤ a - b := le_add_left finiteA nonneg (isNaN_of_isFinite finite)
  have upper : a - b ≤ 0 := by
    have sums := add_le_add finiteA finiteB finite finite below same
    obtain ⟨x, y, first, second, ordered⟩ := le_iff.mp sums
    change (b - b).rank = some y at second
    rw [rank_sub_self finiteB] at second
    exact le_iff.mpr ⟨x, y, first, rank_zero.trans second, ordered⟩
  exact ⟨isFinite_of_between finite isFinite_zero lower upper, lower, upper⟩

/-- Distinct finite numbers have a difference, however small. -/
theorem sub_neg {a b : Binary32} (finiteA : a.isFinite = true) (finiteB : b.isFinite = true)
    (less : a < b) : a - b < 0 := by
  obtain ⟨p, i, rfl⟩ := isFinite_iff.mp finiteA
  obtain ⟨q, j, rfl⟩ := isFinite_iff.mp finiteB
  have units := signedUnits_strictMono less
  exact lt_iff.mpr ⟨_, _, rank_sub p q i j, rank_zero, roundRank_neg (by omega)⟩

end Binary32

end WordTrack
