import WordTrack.Proofs.Nearest
import WordTrack.Proofs.Numerals

/-! Finite numbers as numerals. Whichever way a number is laid out, its text is a numeral
with the sign and the value of the decimal that was chosen. Nine significant digits come
nearer to a single-precision number than a quarter of its last place, so there is a decimal
that rounds to the number, and the one chosen does. -/
namespace WordTrack

open Json

namespace Decimal

/-- The text is a numeral of the decimal, but for a sign. -/
def WrittenAs (d : Decimal) (text : List Char) : Prop :=
  ∀ negative, ∃ l : Literal,
    l.negative = negative ∧ l.unsignedChars = text ∧ l.decimal.value = d.value

variable {d : Decimal}

/-- Digits with a point among them. -/
theorem writtenAs_point {whole fraction : List Char} (front : whole ≠ []) (back : fraction ≠ [])
    (isDigit : ∀ c ∈ whole ++ fraction, c.isDigit = true)
    (lead : whole.head? = some '0' → whole.length = 1)
    (value : (Nat.ofDigitChars 10 (whole ++ fraction) 0 : ℚ) * 10 ^ (-(fraction.length : Int)) =
      d.value) : d.WrittenAs (whole ++ '.' :: fraction) := by
  intro negative
  obtain ⟨first, second⟩ := List.forall_mem_append.mp isDigit
  refine ⟨⟨negative, ⟨whole, front, first⟩, lead, some ⟨fraction, back, second⟩, none⟩, rfl, ?_, ?_⟩
  · change whole ++ ('.' :: fraction ++ []) = _
    rw [List.append_nil]
  · change _ * 10 ^ ((0 : Int) - fraction.length) = _
    rw [Int.zero_sub]
    exact value

theorem isDigit_zeros (n : Nat) : ∀ c ∈ List.replicate n '0', c.isDigit = true := by
  intro c member
  rw [List.eq_of_mem_replicate member]
  rfl

theorem naturalChars_ne_nil (n : Nat) : naturalChars n ≠ [] := (Literal.ofNat n).whole.ne_nil

/-- A decimal without places ends in zeros and a place of its own. -/
theorem writtenAs_zeros (positive : 0 < d.coefficient) (whole : (-d.exponent).toNat = 0) :
    d.WrittenAs (naturalChars d.coefficient ++ List.replicate d.exponent.toNat '0' ++ ['.', '0']) := by
  apply writtenAs_point
  · exact List.append_ne_nil_of_left_ne_nil (naturalChars_ne_nil _) _
  · exact List.cons_ne_nil _ _
  · rw [List.forall_mem_append, List.forall_mem_append]
    exact ⟨⟨isDigit_naturalChars, isDigit_zeros _⟩, isDigit_zeros 1⟩
  · intro zero
    rw [List.head?_append_of_ne_nil _ (naturalChars_ne_nil _)] at zero
    exact absurd zero (head_naturalChars positive)
  · have number : Nat.ofDigitChars 10 (naturalChars d.coefficient ++
        List.replicate d.exponent.toNat '0' ++ ['0']) 0 =
          10 * (tenPow d.exponent.toNat * d.coefficient) := by
      rw [Nat.ofDigitChars_append, Nat.ofDigitChars_append, ofDigitChars_naturalChars,
        Nat.ofDigitChars_replicate_zero]
      rfl
    have exponent : d.exponent = d.exponent.toNat := by omega
    rw [number, value]
    nth_rewrite 2 [exponent]
    push_cast [cast_tenPow]
    norm_num
    ring

/-- A decimal with places has the point before them, and zeros up to the first digit. -/
theorem writtenAs_padded (positive : 0 < d.coefficient) {padded : List Char}
    (pads : padded = List.replicate ((-d.exponent).toNat + 1 - (naturalChars d.coefficient).length) '0' ++
      naturalChars d.coefficient) (places : (-d.exponent).toNat ≠ 0) :
    d.WrittenAs (padded.take (padded.length - (-d.exponent).toNat) ++
      '.' :: padded.drop (padded.length - (-d.exponent).toNat)) := by
  have long : (-d.exponent).toNat + 1 ≤ padded.length := by
    rw [pads, List.length_append, List.length_replicate]
    omega
  have isDigit : ∀ c ∈ padded, c.isDigit = true := by
    rw [pads, List.forall_mem_append]
    exact ⟨isDigit_zeros _, isDigit_naturalChars⟩
  apply writtenAs_point
  · rw [← List.length_pos_iff, List.length_take]
    omega
  · rw [← List.length_pos_iff, List.length_drop]
    omega
  · rwa [List.take_append_drop]
  · intro zero
    -- The first digit is a zero only if zeros were put before the others.
    have fewer : (naturalChars d.coefficient).length ≤ (-d.exponent).toNat := by
      by_contra more
      rw [List.head?_take, if_neg (by omega), pads, Nat.sub_eq_zero_of_le (by omega)] at zero
      exact head_naturalChars positive zero
    have length := congrArg List.length pads
    rw [List.length_append, List.length_replicate] at length
    rw [List.length_take]
    omega
  · have number : Nat.ofDigitChars 10 padded 0 = d.coefficient := by
      rw [pads, Nat.ofDigitChars_append, Nat.ofDigitChars_replicate_zero, Nat.mul_zero,
        ofDigitChars_naturalChars]
    have exponent : -((padded.length - (padded.length - (-d.exponent).toNat) : Nat) : Int) =
        d.exponent := by omega
    rw [List.take_append_drop, number, List.length_drop, exponent]
    rfl

theorem positional_writtenAs (d : Decimal) (positive : 0 < d.coefficient) : d.WrittenAs d.positional := by
  unfold positional
  dsimp only
  split
  · next whole => exact writtenAs_zeros positive whole
  · next places => exact writtenAs_padded positive rfl places

/-- Zeros at the end of some digits. -/
theorem eq_append_zeros (ds : List Char) :
    ∃ n, ds = (ds.reverse.dropWhile (· == '0')).reverse ++ List.replicate n '0' := by
  refine ⟨(ds.reverse.takeWhile (· == '0')).length, ?_⟩
  have zeros : (ds.reverse.takeWhile (· == '0')).reverse =
      List.replicate (ds.reverse.takeWhile (· == '0')).length '0' := by
    rw [List.eq_replicate_iff]
    refine ⟨List.length_reverse, fun c member => ?_⟩
    exact beq_iff_eq.mp (List.all_eq_true.mp List.all_takeWhile c (List.mem_reverse.mp member))
  rw [← zeros, ← List.reverse_append, List.takeWhile_append_dropWhile, List.reverse_reverse]

/-- A power of ten as it is written after a mark. -/
def power (exponent : Int) : Power :=
  ⟨false, if exponent < 0 then some true else none, (Literal.ofNat exponent.natAbs).whole⟩

theorem power_chars (exponent : Int) :
    (power exponent).chars =
      'e' :: (if exponent < 0 then ['-'] else []) ++ naturalChars exponent.natAbs := by
  unfold power Power.chars Power.signChars
  split <;> rfl

theorem power_exponent (exponent : Int) : (power exponent).exponent = exponent := by
  have digits : (power exponent).digits.number = exponent.natAbs := ofDigitChars_naturalChars _
  unfold Power.exponent
  rw [digits]
  unfold power
  split <;> simp only [reduceCtorEq, if_true, if_false] <;> omega

/-- One digit, a point if there are more, and the power. -/
theorem writtenAs_power {first : Char} {tail : List Char} {n : Nat}
    (digits : naturalChars d.coefficient = first :: (tail ++ List.replicate n '0')) :
    d.WrittenAs ([first] ++ ((if tail.isEmpty then [] else '.' :: tail) ++ (power d.lead).chars)) := by
  intro negative
  have isDigit := isDigit_naturalChars (n := d.coefficient)
  rw [digits, List.forall_mem_cons, List.forall_mem_append] at isDigit
  obtain ⟨front, back, -⟩ := isDigit
  have number : d.coefficient = tenPow n * Nat.ofDigitChars 10 (first :: tail) 0 := by
    have value := ofDigitChars_naturalChars d.coefficient
    rw [digits, ← List.cons_append, Nat.ofDigitChars_append, Nat.ofDigitChars_replicate_zero] at value
    exact value.symm
  have exponent : d.lead - tail.length = d.exponent + n := by
    have length : (naturalChars d.coefficient).length = (Decimal.digits d.coefficient).length :=
      String.length_toList
    rw [digits, List.length_cons, List.length_append, List.length_replicate] at length
    unfold lead
    omega
  have value : (Nat.ofDigitChars 10 (first :: tail) 0 : ℚ) * 10 ^ (d.lead - tail.length) = d.value := by
    rw [exponent, Decimal.value, number, Nat.cast_mul, cast_tenPow, zpow_add₀ (by norm_num)]
    ring
  let whole : Digits := ⟨[first], List.cons_ne_nil _ _, List.forall_mem_singleton.mpr front⟩
  by_cases alone : tail = []
  · subst alone
    refine ⟨⟨negative, whole, fun _ => rfl, none, some (power d.lead)⟩, rfl, rfl, ?_⟩
    change _ * 10 ^ ((power d.lead).exponent - (0 : Nat)) = _
    rw [power_exponent]
    exact value
  · refine ⟨⟨negative, whole, fun _ => rfl, some ⟨tail, alone, back⟩, some (power d.lead)⟩, rfl, ?_, ?_⟩
    · have some : tail.isEmpty = false := List.isEmpty_eq_false_iff.mpr alone
      rw [some]
      rfl
    · change _ * 10 ^ ((power d.lead).exponent - tail.length) = _
      rw [power_exponent]
      exact value

theorem scientific_writtenAs (d : Decimal) : d.WrittenAs d.scientific := by
  obtain ⟨first, more, chars⟩ := List.exists_cons_of_ne_nil (naturalChars_ne_nil d.coefficient)
  obtain ⟨n, zeros⟩ := eq_append_zeros more
  have text : d.scientific = [first] ++ ((if (more.reverse.dropWhile (· == '0')).reverse.isEmpty then []
      else '.' :: (more.reverse.dropWhile (· == '0')).reverse) ++ (power d.lead).chars) := by
    have digits : (digits d.coefficient).toList = first :: more := chars
    rw [power_chars]
    unfold scientific
    rw [digits]
    simp only [List.take_succ_cons, List.take_zero, List.drop_succ_cons, List.drop_zero,
      List.append_assoc]
    rfl
  rw [text]
  exact writtenAs_power (zeros ▸ chars)

end Decimal

namespace Binary32

open BinaryFormat

theorem reads_iff {code : Nat} {d : Decimal} :
    reads code d = true ↔ single.encode (d.quotient.1 * single.one) d.quotient.2 = code := beq_iff_eq

/-- A decimal that reads back rounds to the number. -/
theorem nearest_of_reads {code : Nat} {d : Decimal} (back : reads code d = true) :
    single.Nearest d.value code := by
  obtain ⟨positive, value⟩ := d.value_eq_quotient
  rw [value, ← reads_iff.mp back]
  exact nearest_ratio (by decide) _ positive

theorem units_pos {code : Nat} (positive : 0 < code) : 0 < single.units code := by
  have least := units_strictMono (f := single) positive
  rwa [single.units_zero] at least

/-- A decimal that misses a number by little reads back. -/
theorem reads_of_near {code : Nat} {d : Decimal}
    (near : |d.value - single.value code| < single.value code / 2 ^ 25) : reads code d = true := by
  obtain ⟨positive, value⟩ := d.value_eq_quotient
  refine reads_iff.mpr (single.encode_of_near positive ?_)
  have parts : ((4 * twoPow single.fractionBits : Nat) : ℚ) = 2 ^ 25 := by
    norm_num [twoPow, single]
  rw [Nat.cast_mul, mul_div_right_comm, ← value, parts, single.units_eq, ← sub_mul, abs_mul,
    abs_of_pos single.one_pos, mul_div_right_comm]
  exact mul_lt_mul_of_pos_right near single.one_pos

/-- What is cut off after nine digits is less than a quarter of the last place. -/
theorem near_of_cut {v y step : ℚ} (lower : y ≤ v) (upper : v < y + step)
    (full : 10 ^ 8 * step ≤ y) : |y - v| < v / 2 ^ 25 := by
  rw [abs_lt]
  constructor <;> linarith

/-- Nine digits are enough: cut off after them, the decimal of a number reads back. -/
theorem reads_below {code : Nat} (positive : 0 < code) :
    reads code (Decimal.below (single.units code) single.one Decimal.enough) = true := by
  obtain ⟨lower, upper, full⟩ :=
    Decimal.below_bounds (units_pos positive) (twoPow_pos single.unitExponent) 8
  have digits : (tenPow 8 : ℚ) = 10 ^ 8 := by norm_num [tenPow]
  rw [digits] at full
  exact reads_of_near (near_of_cut lower upper full)

/-- What is chosen for a number is a positive decimal that rounds to it. -/
theorem shortest_spec {code : Nat} (positive : 0 < code) (up : Nat → Bool) :
    0 < (Decimal.shortest up (reads code) (single.units code) single.one).coefficient ∧
      single.Nearest (Decimal.shortest up (reads code) (single.units code) single.one).value code := by
  have below : Decimal.below (single.units code) single.one Decimal.enough ∈
      Decimal.neighbours up (single.units code) single.one Decimal.enough :=
    Decimal.mem_neighbours.mpr (.inl rfl)
  obtain ⟨back, count, member⟩ := Decimal.shortest_mem below (reads_below positive)
  exact ⟨Decimal.coefficient_pos_of_mem (units_pos positive) (twoPow_pos _) member,
    nearest_of_reads back⟩

theorem writtenAs_zero : (Decimal.mk 0 0).WrittenAs ['0', '.', '0'] := by
  have number : Nat.ofDigitChars 10 (['0'] ++ ['0']) 0 = 0 := by decide
  have value : (Nat.ofDigitChars 10 (['0'] ++ ['0']) 0 : ℚ) * 10 ^ (-(['0'].length : Int)) =
      (Decimal.mk 0 0).value := by
    rw [number, Decimal.value, Nat.cast_zero, zero_mul, zero_mul]
  exact Decimal.writtenAs_point (by decide) (by decide) (Decimal.isDigit_zeros 2) (fun _ => rfl) value

theorem laidOut_decimal (layout : Layout) (negative : Bool) (code : Nat) :
    ∃ (d : Decimal) (text : List Char), single.Nearest d.value code ∧ d.WrittenAs text ∧
      laidOut layout negative code = (if negative then ['-'] else []) ++ text := by
  rcases Nat.eq_zero_or_pos code with rfl | positive
  · exact ⟨⟨0, 0⟩, _, nearest_of_reads (by decide +kernel), writtenAs_zero, rfl⟩
  · obtain ⟨digits, nearest⟩ := shortest_spec positive layout.up
    unfold laidOut
    rw [if_neg positive.ne']
    dsimp only
    generalize Decimal.shortest layout.up (reads code) (single.units code) single.one = d at *
    by_cases plain : layout.plain code d = true
    · exact ⟨d, d.positional, nearest, d.positional_writtenAs digits, by rw [if_pos plain]⟩
    · exact ⟨d, d.scientific, nearest, d.scientific_writtenAs, by rw [if_neg plain]⟩

/-- A finite number is written as a numeral with its sign that rounds to it. -/
theorem laidOut_numeral (layout : Layout) (negative : Bool) (code : Nat) :
    ∃ l : Literal, laidOut layout negative code = l.chars ∧ l.negative = negative ∧
      single.Nearest l.decimal.value code := by
  obtain ⟨d, text, nearest, written, laidOut⟩ := laidOut_decimal layout negative code
  obtain ⟨l, rfl, rfl, value⟩ := written negative
  exact ⟨l, laidOut, rfl, value ▸ nearest⟩

end Binary32

end WordTrack
