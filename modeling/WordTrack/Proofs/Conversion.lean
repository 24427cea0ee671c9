import WordTrack.Proofs.Numerals
import WordTrack.Proofs.Scaling

/-! From numerals to numbers. A numeral stands for a rational number. A whole numeral of 64
bits gives the nearest single-precision number. Any other gives the number nearest to a
double, and that double is the nearest one if the numeral has few digits and a small power,
and near in any case. -/
namespace WordTrack

theorem Binary32.neg_ofCode (code : Nat) : -ofCode false code = ofCode true code := by
  change (ofCode false code).neg = _
  unfold ofCode
  split <;> rfl

namespace Json

open BinaryFormat

namespace Literal

/-- The size of the number that a numeral stands for. -/
def size (l : Literal) : ℚ := l.decimal.value

/-- A whole numeral of a signed or unsigned 64-bit number; a negative zero is not one. -/
def IsWhole (l : Literal) : Prop :=
  l.fraction = none ∧ l.power = none ∧
    if l.negative then 0 < l.decimal.coefficient ∧ l.decimal.coefficient ≤ twoPow 63
    else l.decimal.coefficient < twoPow 64

/-- A double for the size of a numeral. -/
structure InDouble (l : Literal) (wide : Nat) : Prop where
  finite : wide < double.top
  near : |double.value wide - l.size| ≤ l.size / 2 ^ 50 + 1 / 2 ^ 1074
  nearest : l.decimal.coefficient < twoPow 53 → l.decimal.exponent.natAbs ≤ 22 →
    double.Nearest l.size wide

/-- The number that a numeral gives. -/
inductive Gives (l : Literal) : Binary32 → Prop where
  | whole {code : Nat} :
      l.IsWhole → single.Nearest l.size code → Gives l (Binary32.ofCode l.negative code)
  | real {wide code : Nat} :
      ¬l.IsWhole → l.InDouble wide → single.Nearest (double.value wide) code →
      Gives l (Binary32.ofCode l.negative code)

/-- There is no gigabyte of digits. -/
def Short (l : Literal) : Prop := (l.whole.chars ++ l.places).length < twoPow 30

instance (l : Literal) : Decidable l.Short :=
  inferInstanceAs (Decidable ((l.whole.chars ++ l.places).length < twoPow 30))

/-- The number is past all doubles, or would be if it were a little larger. -/
def Huge (l : Literal) : Prop := 2 ^ 1024 < l.size + l.size / 2 ^ 50

theorem size_nonneg (l : Literal) : 0 ≤ l.size := l.decimal.value_nonneg

end Literal

section Kept

/-- Between a number of digits and the next one, at a place. -/
def Cell (n : Nat) (place : Int) (x : ℚ) : Prop := n * 10 ^ place ≤ x ∧ x < (n + 1) * 10 ^ place

/-- Digits after a number leave it in its cell. -/
theorem cell_of_digits {ds : List Char} (digits : ∀ c ∈ ds, c.isDigit = true) (n : Nat) {place e : Int}
    (shifted : place = e + ds.length) : Cell n place (Nat.ofDigitChars 10 ds n * 10 ^ e) := by
  obtain ⟨lower, upper⟩ := ofDigitChars_bounds digits n
  have power : (0 : ℚ) < 10 ^ e := zpow_pos (by norm_num) e
  have scale : (10 : ℚ) ^ place = tenPow ds.length * 10 ^ e := by
    rw [shifted, Decimal.cast_tenPow, zpow_add₀ (by norm_num), mul_comm]
  have low : (n * tenPow ds.length : ℚ) ≤ Nat.ofDigitChars 10 ds n := by exact_mod_cast lower
  have high : (Nat.ofDigitChars 10 ds n : ℚ) < (n + 1) * tenPow ds.length := by exact_mod_cast upper
  unfold Cell
  rw [scale, ← mul_assoc, ← mul_assoc]
  exact ⟨mul_le_mul_of_nonneg_right low power.le, mul_lt_mul_of_pos_right high power⟩

theorem near_of_cells {n : Nat} {place : Int} {x y : ℚ} (many : twoPow 60 ≤ n) (first : Cell n place x)
    (second : Cell n place y) : |x - y| ≤ y / 2 ^ 60 := by
  have power : (0 : ℚ) < 10 ^ place := zpow_pos (by norm_num) place
  have digits : (2 : ℚ) ^ 60 ≤ n := by
    rw [← cast_twoPow]
    exact_mod_cast many
  have share := mul_le_mul_of_nonneg_right digits power.le
  obtain ⟨low, high⟩ := first
  obtain ⟨low', high'⟩ := second
  have apart : |x - y| ≤ 10 ^ place := by
    rw [abs_le]
    constructor <;> linarith
  rw [le_div_iff₀ (by positivity)]
  linarith [mul_le_mul_of_nonneg_right apart (by positivity : (0 : ℚ) ≤ 2 ^ 60)]

end Kept

namespace Literal

variable (l : Literal)

/-- What is kept of a numeral's digits, before the power of ten. -/
def kept : Decimal :=
  let (coefficient, left) := Numeral.absorb 0 l.whole.chars
  let (coefficient, dropped) := Numeral.absorb coefficient l.places
  ⟨coefficient, left.length - (l.places.length - dropped.length : Nat)⟩

/-- The power of ten. -/
def shift : Int := l.power.elim 0 Power.exponent

/-- The decimal of the digits that are kept. -/
def cut : Decimal := ⟨l.kept.coefficient, l.kept.exponent + l.shift⟩

theorem cut_fits : l.cut.coefficient ≤ Numeral.coefficientMax :=
  Numeral.absorb_le (Numeral.absorb_le (Nat.zero_le _) _) _

theorem isDigit_places : ∀ c ∈ l.places, c.isDigit = true := by
  unfold places
  cases l.fraction with
  | none => exact fun _ member => absurd member List.not_mem_nil
  | some ds => exact ds.isDigit

theorem coefficient_eq : l.decimal.coefficient =
    Nat.ofDigitChars 10 l.places (Nat.ofDigitChars 10 l.whole.chars 0) := Nat.ofDigitChars_append 0

theorem many_of_full {n : Nat} (full : Numeral.coefficientMax < n * 10 + 10) : twoPow 60 ≤ n := by
  have most : Numeral.coefficientMax = 18446744073709551615 := by decide
  have many : twoPow 60 = 1152921504606846976 := by decide
  omega

/-- Digits are kept up to where there are too many, first those before the point and then
those after it. -/
theorem cut_digits : ∃ taken left taken' dropped : List Char,
    l.whole.chars = taken ++ left ∧ l.places = taken' ++ dropped ∧
      l.cut = ⟨Nat.ofDigitChars 10 (taken ++ taken') 0, l.shift + left.length - taken'.length⟩ ∧
      (left ≠ [] → twoPow 60 ≤ Nat.ofDigitChars 10 taken 0) ∧
      (dropped ≠ [] → twoPow 60 ≤ Nat.ofDigitChars 10 (taken ++ taken') 0) := by
  obtain ⟨taken, split, first, full⟩ := Numeral.absorb_split (n := 0) l.whole.isDigit
  obtain ⟨taken', split', second, full'⟩ :=
    Numeral.absorb_split (n := (Numeral.absorb 0 l.whole.chars).1) l.isDigit_places
  refine ⟨taken, _, taken', _, split, split', ?_, fun some => ?_, fun some => ?_⟩
  · have lengths := congrArg List.length split'
    rw [List.length_append] at lengths
    rw [Nat.ofDigitChars_append, ← first, ← second]
    unfold cut kept
    dsimp only
    congr 1
    omega
  · rw [← first]
    exact many_of_full (full some)
  · rw [Nat.ofDigitChars_append, ← first, ← second]
    exact many_of_full (full' some)

/-- Either all digits are kept, or so many that what is kept and the number itself are in
one cell of many digits. -/
theorem cut_cases :
    l.cut = l.decimal ∨
      ∃ (n : Nat) (place : Int), twoPow 60 ≤ n ∧ n ≤ l.decimal.coefficient ∧
        Cell n place l.cut.value ∧ Cell n place l.size := by
  obtain ⟨taken, left, taken', dropped, split, split', cut, full, full'⟩ := l.cut_digits
  have digits := l.whole.isDigit
  have digits' := l.isDigit_places
  have decimal : l.decimal =
      ⟨Nat.ofDigitChars 10 (l.whole.chars ++ l.places) 0, l.shift - l.places.length⟩ := rfl
  unfold size
  rw [split] at digits
  rw [split'] at digits'
  rw [cut, decimal, split, split']
  simp only [Decimal.value, Nat.ofDigitChars_append, List.length_append]
  by_cases whole : left = []
  · subst whole
    by_cases all : dropped = []
    · subst all
      left
      simp
    -- Digits after the point were dropped, so those before them fill the coefficient.
    · right
      have last := fun c member => digits' c (List.mem_append_right taken' member)
      have many := full' all
      rw [Nat.ofDigitChars_append] at many
      refine ⟨_, l.shift - taken'.length, many, le_ofDigitChars last _, ?_, ?_⟩
      · have none : ∀ c ∈ ([] : List Char), c.isDigit = true :=
          fun _ member => absurd member List.not_mem_nil
        exact cell_of_digits none _ (by simp)
      · exact cell_of_digits last _ (by push_cast; omega)
  -- Digits before the point were passed over, and those that were taken after it stand in
  -- places of others.
  · right
    have passed := fun c member => digits c (List.mem_append_right taken member)
    have later : ∀ c ∈ left ++ (taken' ++ dropped), c.isDigit = true := by
      intro c member
      exact (List.mem_append.mp member).elim (passed c) (digits' c)
    have kept := fun c member => digits' c (List.mem_append_left dropped member)
    rw [← Nat.ofDigitChars_append, ← Nat.ofDigitChars_append]
    refine ⟨_, l.shift + left.length, full whole, le_ofDigitChars later _, ?_, ?_⟩
    · exact cell_of_digits kept _ (by omega)
    · refine cell_of_digits later _ ?_
      simp only [List.length_append]
      push_cast
      omega

theorem cut_near : |l.cut.value - l.size| ≤ l.size / 2 ^ 60 := by
  rcases l.cut_cases with same | ⟨n, place, many, -, first, second⟩
  · have nonneg := l.size_nonneg
    rw [same, size, sub_self, abs_zero]
    positivity
  · exact near_of_cells many first second

theorem cut_eq (few : l.decimal.coefficient < twoPow 53) : l.cut = l.decimal := by
  rcases l.cut_cases with same | ⟨n, _, many, most, -, -⟩
  · exact same
  · have : twoPow 53 ≤ twoPow 60 := twoPow_mono (by decide)
    omega

theorem size_eq_zero (zero : l.cut.coefficient = 0) : l.size = 0 := by
  have near := l.cut_near
  have nonneg := l.size_nonneg
  rw [Decimal.value, zero, Nat.cast_zero, zero_mul, zero_sub, abs_neg, abs_of_nonneg nonneg] at near
  linarith

/-- A double near to the digits kept is near to the number. -/
theorem inDouble_of_cut {wide : Nat} (finite : wide < double.top)
    (within : Within (7 * roundoff) (2 * underflow) (double.value wide) l.cut.value)
    (nearest : l.decimal.coefficient < twoPow 53 → l.decimal.exponent.natAbs ≤ 22 →
      double.Nearest l.cut.value wide) : l.InDouble wide := by
  refine ⟨finite, ?_, fun few small => ?_⟩
  · obtain ⟨low, high⟩ := abs_le.mp within
    obtain ⟨low', high'⟩ := abs_le.mp l.cut_near
    have nonneg := l.size_nonneg
    rw [← two_mul_underflow, abs_le]
    unfold roundoff at low high
    constructor <;> linarith
  · have exact := nearest few small
    rwa [l.cut_eq few] at exact

theorem huge_of_cut (large : 2 ^ 1024 ≤ l.cut.value * (1 + 7 * roundoff) + 2 * underflow) : l.Huge := by
  by_contra inside
  unfold Huge at inside
  have high := (abs_le.mp l.cut_near).2
  have tiny := underflow_small
  have limit : (2 : ℚ) ^ 3 ≤ 2 ^ 1024 := pow_le_pow_right₀ (by norm_num) (by decide)
  generalize (2 : ℚ) ^ 1024 = m at *
  unfold roundoff at large
  rcases le_or_gt l.size 1 with small | many <;> linarith

variable {l}

theorem ofParts_moderate (moderate : ∀ p ∈ l.power, p.digits.number ≤ Numeral.exponentMax) :
    Numeral.ofParts l.kept.coefficient l.kept.exponent (l.power.map Power.parts) =
      Numeral.ofDecimal l.cut := by
  unfold cut shift
  cases power : l.power with
  | none => exact congrArg (fun e => Numeral.ofDecimal ⟨_, e⟩) (Int.add_zero _).symm
  | some p =>
    have bound : ¬Numeral.exponentMax < p.digits.number := Nat.not_lt.mpr (moderate p power)
    change Numeral.ofParts _ _ (some p.parts) = Numeral.ofDecimal ⟨_, _ + p.exponent⟩
    unfold Numeral.ofParts Power.parts Power.exponent
    dsimp only
    rw [Numeral.foldl_digitValue]
    change (if Numeral.exponentMax < p.digits.number then _ else _) = _
    rw [if_neg bound]
    by_cases down : p.sign = some true
    · simp only [down, beq_self_eq_true, if_true, Int.sub_eq_add_neg]
      rfl
    · simp only [down, beq_iff_eq, if_false]
      rfl

theorem ofParts_past {p : Power} (power : l.power = some p)
    (past : Numeral.exponentMax < p.digits.number) :
    Numeral.ofParts l.kept.coefficient l.kept.exponent (l.power.map Power.parts) =
      if l.cut.coefficient = 0 ∨ p.sign = some true then .ok 0 else .error .malformed := by
  rw [power]
  change Numeral.ofParts _ _ (some p.parts) = _
  unfold Numeral.ofParts Power.parts
  dsimp only
  rw [Numeral.foldl_digitValue]
  change (if Numeral.exponentMax < p.digits.number then _ else _) = _
  rw [if_pos past]
  simp only [beq_iff_eq]
  rfl

/-- The size is less than the power of ten after its first digit. -/
theorem size_lt (l : Literal) : l.size < 10 ^ (l.shift + l.whole.chars.length) := by
  have digits : ∀ c ∈ l.whole.chars ++ l.places, c.isDigit = true := by
    intro c member
    exact (List.mem_append.mp member).elim (l.whole.isDigit c) (l.isDigit_places c)
  have cell : Cell 0 (l.shift + l.whole.chars.length) l.size := by
    refine cell_of_digits digits 0 ?_
    change _ = l.shift - l.places.length + _
    rw [List.length_append]
    omega
  simpa using cell.2

theorem le_size_of_shift {place : Int} (some : l.cut.coefficient ≠ 0)
    (least : place ≤ l.decimal.exponent) : 10 ^ place ≤ l.size := by
  have nonzero : l.decimal.coefficient ≠ 0 := by
    intro zero
    rw [l.cut_eq (zero ▸ twoPow_pos _)] at some
    exact some zero
  have one : (1 : ℚ) ≤ l.decimal.coefficient := by
    exact_mod_cast Nat.one_le_iff_ne_zero.mpr nonzero
  calc (10 : ℚ) ^ place
    _ ≤ 10 ^ l.decimal.exponent := zpow_le_zpow_right₀ (by norm_num) least
    _ ≤ l.size := le_mul_of_one_le_left (zpow_nonneg (by norm_num) _) one

/-- A power past all bounds makes a number that is past all doubles or below them. -/
theorem parts_past (short : l.Short) {p : Power} (power : l.power = some p)
    (past : Numeral.exponentMax < p.digits.number) :
    (Numeral.ofParts l.kept.coefficient l.kept.exponent (l.power.map Power.parts) = .ok 0 ∧
        l.InDouble 0) ∨
      Numeral.ofParts l.kept.coefficient l.kept.exponent (l.power.map Power.parts) =
        .error .malformed ∧ l.Huge := by
  have most : Numeral.exponentMax = 2147483647 := by decide
  have bound : twoPow 30 = 1073741824 := by decide
  have shift : l.shift = p.exponent := by
    rw [Literal.shift, power]
    rfl
  have exponent : l.decimal.exponent = l.shift - l.places.length := rfl
  unfold Short at short
  rw [List.length_append] at short
  have zero (least : l.size ≤ 1 / 2 ^ 1074) (far : 22 < l.decimal.exponent.natAbs) : l.InDouble 0 := by
    refine ⟨by decide, ?_, fun _ near => absurd near (by omega)⟩
    have nonneg := l.size_nonneg
    rw [value_zero, zero_sub, abs_neg, abs_of_nonneg nonneg]
    exact least.trans (le_add_of_nonneg_left (by positivity))
  rw [ofParts_past power past]
  unfold Power.exponent at shift
  by_cases down : p.sign = some true
  · rw [if_pos down] at shift
    refine .inl ⟨if_pos (.inr down), zero ?_ (by omega)⟩
    calc l.size
      _ ≤ 10 ^ (l.shift + l.whole.chars.length) := l.size_lt.le
      _ ≤ 10 ^ (-1074 : Int) := zpow_le_zpow_right₀ (by norm_num) (by omega)
      _ = 1 / 10 ^ 1074 := by rw [zpow_neg, one_div]; rfl
      _ ≤ 1 / 2 ^ 1074 :=
        one_div_le_one_div_of_le (by positivity) (pow_le_pow_left₀ (by norm_num) (by norm_num) _)
  · rw [if_neg down] at shift
    by_cases none : l.cut.coefficient = 0
    · refine .inl ⟨if_pos (.inl none), zero ?_ (by omega)⟩
      rw [size_eq_zero l none]
      positivity
    · refine .inr ⟨if_neg (not_or.mpr ⟨none, down⟩), ?_⟩
      have large : (2 : ℚ) ^ 1024 ≤ l.size :=
        calc (2 : ℚ) ^ 1024
          _ ≤ 10 ^ 1024 := pow_le_pow_left₀ (by norm_num) (by norm_num) _
          _ = 10 ^ (1024 : Int) := rfl
          _ ≤ l.size := le_size_of_shift none (by omega)
      have positive : 0 < (2 : ℚ) ^ 1024 := by positivity
      unfold Huge
      generalize (2 : ℚ) ^ 1024 = m at large positive
      linarith

theorem parts_outcome (short : l.Short) :
    (∃ wide, Numeral.ofParts l.kept.coefficient l.kept.exponent (l.power.map Power.parts) = .ok wide ∧
        l.InDouble wide) ∨
      Numeral.ofParts l.kept.coefficient l.kept.exponent (l.power.map Power.parts) =
        .error .malformed ∧ l.Huge := by
  by_cases moderate : ∀ p ∈ l.power, p.digits.number ≤ Numeral.exponentMax
  · rw [ofParts_moderate moderate]
    rcases Numeral.ofDecimal_outcome l.cut_fits with ⟨wide, read, finite, within⟩ | ⟨refused, large⟩
    · refine .inl ⟨wide, read, l.inDouble_of_cut finite within ?_⟩
      intro few small
      have same := l.cut_eq few
      rw [← same] at few small
      exact Numeral.ofDecimal_nearest read few small
    · exact .inr ⟨refused, l.huge_of_cut large⟩
  · simp only [not_forall, Nat.not_le] at moderate
    obtain ⟨p, power, past⟩ := moderate
    exact (parts_past short power past).imp_left fun zero => ⟨0, zero⟩

/-- Without a fraction and a power a number of 64 bits is kept as it is. -/
theorem numeral_plain (fraction : l.fraction = none) (power : l.power = none)
    (fits : l.decimal.coefficient ≤ Numeral.coefficientMax) :
    l.numeral = .ok (Numeral.ofWhole l.negative l.decimal.coefficient) := by
  have digits : Nat.ofDigitChars 10 l.whole.chars 0 = l.decimal.coefficient := by
    rw [l.coefficient_eq, places, fraction]
    rfl
  have absorbed := Numeral.absorb_eq (digits.trans_le fits) l.whole.isDigit
  rw [digits] at absorbed
  unfold numeral
  rw [absorbed, fraction, power]
  rfl

/-- Any other numeral is read as a double. -/
theorem numeral_parts (other : ¬(l.fraction = none ∧ l.power = none ∧
      l.decimal.coefficient ≤ Numeral.coefficientMax)) :
    l.numeral = (Numeral.ofParts l.kept.coefficient l.kept.exponent
      (l.power.map Power.parts)).map (.real l.negative) := by
  refine if_neg fun ⟨whole, fraction, power⟩ => other ?_
  rw [Option.isNone_iff_eq_none] at fraction power
  obtain ⟨taken, split, value, -⟩ := Numeral.absorb_split (n := 0) l.whole.isDigit
  rw [List.isEmpty_iff.mp whole, List.append_nil] at split
  refine ⟨fraction, power, ?_⟩
  rw [l.coefficient_eq, places, fraction, split, ← value]
  exact Numeral.absorb_le (Nat.zero_le _) _

theorem size_plain (fraction : l.fraction = none) (power : l.power = none) :
    l.size = l.decimal.coefficient := by
  have exponent : l.decimal.exponent = 0 := by
    change l.power.elim 0 Power.exponent - l.places.length = 0
    rw [power, places, fraction]
    rfl
  rw [size, Decimal.value, exponent, zpow_zero, mul_one]

theorem gives_whole (whole : l.IsWhole) :
    l.Gives (Numeral.ofWhole l.negative l.decimal.coefficient).toBinary32 := by
  obtain ⟨fraction, power, bits⟩ := whole
  have nearest := nearest_ratio (f := single) (by decide) l.decimal.coefficient Nat.one_pos
  rw [Nat.cast_one, div_one, ← size_plain fraction power] at nearest
  have rounded : (Numeral.ofWhole l.negative l.decimal.coefficient).toBinary32 =
      Binary32.ofCode l.negative (single.encode (l.decimal.coefficient * single.one) 1) := by
    cases sign : l.negative with
    | false => rfl
    | true =>
      rw [sign, if_pos rfl] at bits
      have negative : Numeral.ofWhole true l.decimal.coefficient = .negative l.decimal.coefficient :=
        if_pos bits
      rw [negative]
      exact Binary32.neg_ofCode _
  rw [rounded]
  exact .whole ⟨fraction, power, bits⟩ nearest

theorem gives_real {wide : Nat} (other : ¬l.IsWhole) (inDouble : l.InDouble wide) :
    l.Gives (Numeral.real l.negative wide).toBinary32 := by
  have nearest : single.Nearest (double.value wide) _ :=
    nearest_ratio (by decide) (double.units wide) (twoPow_pos _)
  have rounded : (Numeral.real l.negative wide).toBinary32 =
      Binary32.ofCode l.negative (single.encode (double.units wide * single.one) double.one) := rfl
  rw [rounded]
  exact .real other inDouble nearest

theorem inDouble_plain (fraction : l.fraction = none) (power : l.power = none)
    (fits : l.decimal.coefficient ≤ Numeral.coefficientMax) :
    l.InDouble (double.ofNat l.decimal.coefficient) := by
  have within := ofNat_within l.decimal.coefficient
  have nearest := nearest_ratio (f := double) (by decide) l.decimal.coefficient Nat.one_pos
  rw [Nat.cast_one, div_one] at nearest
  have small : (l.decimal.coefficient : ℚ) ≤ Numeral.coefficientMax := by exact_mod_cast fits
  rw [← size_plain fraction power] at within nearest small
  have nonneg := l.size_nonneg
  refine ⟨lt_top_of_value_lt (lt_of_le_of_lt ?_ (Numeral.inside_of_le small)), ?_, fun _ _ => nearest⟩
  · have share := mul_nonneg nonneg roundoff_pos.le
    linarith [within.bounds.2, underflow_pos]
  · unfold Within roundoff at within
    have tiny : (0 : ℚ) ≤ 1 / 2 ^ 1074 := by positivity
    generalize (1 : ℚ) / 2 ^ 1074 = m at *
    linarith

/-- A numeral is read as the number that it gives, unless it is refused as too large. -/
theorem numeral_outcome (short : l.Short) :
    (∃ n, l.numeral = .ok n ∧ l.Gives n.toBinary32) ∨ l.numeral = .error .malformed ∧ l.Huge := by
  by_cases plain : l.fraction = none ∧ l.power = none ∧
      l.decimal.coefficient ≤ Numeral.coefficientMax
  · obtain ⟨fraction, power, small⟩ := plain
    refine .inl ⟨_, numeral_plain fraction power small, ?_⟩
    by_cases whole : l.IsWhole
    · exact gives_whole whole
    -- What is left is a zero or a large number with a minus.
    · have negative : l.negative = true := by
        by_contra unsigned
        refine whole ⟨fraction, power, ?_⟩
        rw [if_neg unsigned]
        exact Nat.lt_of_le_pred (twoPow_pos _) small
      have outside : ¬(0 < l.decimal.coefficient ∧ l.decimal.coefficient ≤ twoPow 63) :=
        fun bits => whole ⟨fraction, power, (if_pos negative).mpr bits⟩
      have read : Numeral.ofWhole l.negative l.decimal.coefficient =
          .real l.negative (double.ofNat l.decimal.coefficient) := by
        rw [negative]
        exact if_neg outside
      rw [read]
      exact gives_real whole (inDouble_plain fraction power small)
  · rw [numeral_parts plain]
    rcases parts_outcome short with ⟨wide, read, inDouble⟩ | ⟨refused, huge⟩
    · refine .inl ⟨.real l.negative wide, by rw [read]; rfl, gives_real ?_ inDouble⟩
      rintro ⟨fraction, power, bits⟩
      refine plain ⟨fraction, power, Nat.le_sub_one_of_lt ?_⟩
      have halves : twoPow 63 < twoPow 64 := by decide
      split_ifs at bits with negative
      · exact bits.2.trans_lt halves
      · exact bits
    · exact .inr ⟨by rw [refused]; rfl, huge⟩

/-- Few digits and a small power determine the number. -/
theorem Gives.unique {x y : Binary32} (first : l.Gives x) (second : l.Gives y)
    (few : l.decimal.coefficient < twoPow 53) (small : l.decimal.exponent.natAbs ≤ 22) : x = y := by
  cases first with
  | whole is nearest =>
    cases second with
    | whole _ nearest' => rw [nearest.unique nearest']
    | real is' => contradiction
  | real is inDouble nearest =>
    cases second with
    | whole is' => contradiction
    | real _ inDouble' nearest' =>
      obtain rfl := (inDouble.nearest few small).unique (inDouble'.nearest few small)
      rw [nearest.unique nearest']

end Literal

end Json

end WordTrack
