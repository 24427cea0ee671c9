import WordTrack.Json.Tree
import WordTrack.Proofs.Decimals
import WordTrack.Proofs.Scanning

/-! Digits. A whole number is written by its digits, without leading zeros. Of a numeral
as many digits are kept as make a number of 64 bits. -/
namespace WordTrack.Json

section Naturals

variable {n : Nat}

theorem naturalChars_eq (n : Nat) : naturalChars n = Nat.toDigits 10 n := Nat.toList_repr

theorem isDigit_naturalChars : ∀ c ∈ naturalChars n, c.isDigit = true := by
  intro c member
  rw [naturalChars_eq] at member
  exact Nat.isDigit_of_mem_toDigits (by decide) (by decide) member

/-- No digit is written before the first one that counts. -/
theorem head_naturalChars (positive : 0 < n) : (naturalChars n).head? ≠ some '0' := by
  rw [naturalChars_eq]
  induction n using Nat.strong_induction_on with
  | h n ih =>
    by_cases short : n < 10
    · have digit : ∀ n < 10, 0 < n → some (Nat.digitChar n) ≠ some '0' := by decide
      rw [Nat.toDigits_of_lt_base short]
      exact digit n short positive
    · have front : 0 < n / 10 := by omega
      rw [Nat.toDigits_of_base_le (by decide) (Nat.le_of_not_lt short),
        List.head?_append_of_ne_nil _ Nat.toDigits_ne_nil]
      exact ih _ (by omega) front

theorem naturalChars_lead (zero : (naturalChars n).head? = some '0') :
    (naturalChars n).length = 1 := by
  rcases Nat.eq_zero_or_pos n with rfl | positive
  · rfl
  · exact absurd zero (head_naturalChars positive)

/-- The numeral of a natural number. -/
def Literal.ofNat (n : Nat) : Literal where
  negative := false
  whole := ⟨naturalChars n, by simp [naturalChars_eq], isDigit_naturalChars⟩
  lead := naturalChars_lead
  fraction := none
  power := none

theorem Literal.chars_ofNat (n : Nat) : (ofNat n).chars = naturalChars n := by
  simp [chars, unsignedChars, fractionChars, powerChars, ofNat]

theorem ofDigitChars_naturalChars (n : Nat) : Nat.ofDigitChars 10 (naturalChars n) 0 = n := by
  rw [naturalChars_eq, Nat.ofDigitChars_toDigits (by decide) (by decide)]

end Naturals

section Digits

variable {ds : List Char}

theorem digitValue_lt {c : Char} (digit : c.isDigit = true) : Numeral.digitValue c < 10 := by
  have last := (Char.isDigit_iff_toNat.mp digit).2
  have zero : '0'.toNat = 48 := rfl
  have nine : '9'.toNat = 57 := rfl
  unfold Numeral.digitValue
  omega

/-- Digits after a number shift it and add less than one place. -/
theorem ofDigitChars_bounds (digits : ∀ c ∈ ds, c.isDigit = true) (n : Nat) :
    n * tenPow ds.length ≤ Nat.ofDigitChars 10 ds n ∧
      Nat.ofDigitChars 10 ds n < (n + 1) * tenPow ds.length := by
  induction ds generalizing n with
  | nil => exact ⟨(Nat.mul_one n).le, by simp [tenPow]⟩
  | cons c ds ih =>
    obtain ⟨first, later⟩ := List.forall_mem_cons.mp digits
    have digit := digitValue_lt first
    obtain ⟨lower, upper⟩ := ih later (10 * n + Numeral.digitValue c)
    rw [Nat.ofDigitChars_cons, List.length_cons, tenPow_succ, ← Nat.mul_assoc, ← Nat.mul_assoc]
    exact ⟨(Nat.mul_le_mul_right _ (by omega)).trans lower,
      upper.trans_le (Nat.mul_le_mul_right _ (by omega))⟩

theorem le_ofDigitChars (digits : ∀ c ∈ ds, c.isDigit = true) (n : Nat) :
    n ≤ Nat.ofDigitChars 10 ds n :=
  (Nat.le_mul_of_pos_right n (tenPow_pos _)).trans (ofDigitChars_bounds digits n).1

end Digits

namespace Numeral

variable {n : Nat} {ds : List Char}

theorem foldl_digitValue (n : Nat) (ds : List Char) :
    ds.foldl (fun n c => n * 10 + digitValue c) n = Nat.ofDigitChars 10 ds n := by
  simp only [Nat.mul_comm _ 10]
  rfl

theorem absorb_le (fits : n ≤ coefficientMax) (ds : List Char) : (absorb n ds).1 ≤ coefficientMax := by
  induction ds generalizing n with
  | nil => exact fits
  | cons c ds ih =>
    rw [absorb]
    split_ifs with longer
    · exact ih longer
    · exact fits

/-- The digits that are taken continue the coefficient, and if any is left the coefficient
has no room for it. -/
theorem absorb_split (digits : ∀ c ∈ ds, c.isDigit = true) :
    ∃ taken, ds = taken ++ (absorb n ds).2 ∧ (absorb n ds).1 = Nat.ofDigitChars 10 taken n ∧
      ((absorb n ds).2 ≠ [] → coefficientMax < (absorb n ds).1 * 10 + 10) := by
  induction ds generalizing n with
  | nil => exact ⟨[], rfl, rfl, fun left => absurd rfl left⟩
  | cons c ds ih =>
    obtain ⟨first, later⟩ := List.forall_mem_cons.mp digits
    rw [absorb]
    split_ifs with longer
    · obtain ⟨taken, split, value, full⟩ := ih (n := n * 10 + digitValue c) later
      refine ⟨c :: taken, congrArg (c :: ·) split, ?_, full⟩
      rw [value, Nat.ofDigitChars_cons, Nat.mul_comm]
      rfl
    · have := digitValue_lt first
      exact ⟨[], rfl, rfl, fun _ => by dsimp only; omega⟩

theorem absorb_eq (fits : Nat.ofDigitChars 10 ds n ≤ coefficientMax)
    (digits : ∀ c ∈ ds, c.isDigit = true) : absorb n ds = (Nat.ofDigitChars 10 ds n, []) := by
  induction ds generalizing n with
  | nil => rfl
  | cons c ds ih =>
    obtain ⟨first, later⟩ := List.forall_mem_cons.mp digits
    have value : Nat.ofDigitChars 10 (c :: ds) n = Nat.ofDigitChars 10 ds (n * 10 + digitValue c) := by
      rw [Nat.ofDigitChars_cons, Nat.mul_comm]
      rfl
    rw [value] at fits ⊢
    have next : n * 10 + digitValue c ≤ coefficientMax := (le_ofDigitChars later _).trans fits
    rw [absorb]
    rw [if_pos next, ih fits later]

end Numeral

theorem Literal.numeral_ofNat {n : Nat} (fits : n ≤ Numeral.coefficientMax) :
    (ofNat n).numeral = .ok (.natural n) := by
  have value : Nat.ofDigitChars 10 (ofNat n).whole.chars 0 = n := ofDigitChars_naturalChars n
  have absorbed : Numeral.absorb 0 (ofNat n).whole.chars = (n, []) := by
    rw [Numeral.absorb_eq (value.le.trans fits) (ofNat n).whole.isDigit, value]
  unfold numeral
  rw [absorbed]
  rfl

end WordTrack.Json
