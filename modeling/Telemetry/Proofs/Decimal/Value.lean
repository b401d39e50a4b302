import Mathlib.Algebra.Field.Rat
import Mathlib.Algebra.Order.Field.Power
import Mathlib.Algebra.Order.Ring.Unbundled.Rat
import Mathlib.Tactic.Linarith
import Mathlib.Tactic.NormNum
import Telemetry.Decimal.Basic

/-!
What decimal numbers are worth, as rational numbers. The comparison with one hundred goes by the
place of the leading digit, so that no huge power of ten is ever computed; by what the numbers are
worth it is the plain comparison.
-/

namespace Telemetry.Decimal

/-- `coefficient · 10 ^ exponent`. -/
def magnitude (coefficient : Nat) (exponent : Int) : ℚ :=
  coefficient * 10 ^ exponent

/-- What a finite number is worth; the others are worth nothing. -/
def value? : Decimal → Option ℚ
  | finite negative coefficient exponent =>
    some (if negative then -magnitude coefficient exponent else magnitude coefficient exponent)
  | _ => none

theorem isSome_value? (number : Decimal) : number.value?.isSome = number.isFinite := by
  cases number <;> rfl

theorem magnitude_nonneg (coefficient : Nat) (exponent : Int) : 0 ≤ magnitude coefficient exponent :=
  mul_nonneg (Nat.cast_nonneg coefficient) (zpow_nonneg (by norm_num) exponent)

theorem magnitude_eq_zero_iff {coefficient : Nat} {exponent : Int} :
    magnitude coefficient exponent = 0 ↔ coefficient = 0 := by
  have hpower : (10 : ℚ) ^ exponent ≠ 0 := zpow_ne_zero exponent (by norm_num)
  simp [magnitude, hpower]

theorem lt_pow_digitCount (n : Nat) : n < 10 ^ digitCount n := by
  have hpos : 0 < digitCount n := Nat.length_toDigits_pos
  exact (Nat.length_toDigits_le_iff (by decide) hpos).mp le_rfl

theorem pow_le_of_ne_zero {n : Nat} (hn : n ≠ 0) : 10 ^ (digitCount n - 1) ≤ n := by
  by_cases hone : digitCount n = 1
  · rw [hone]
    exact Nat.one_le_iff_ne_zero.mpr hn
  · have hpos : 0 < digitCount n := Nat.length_toDigits_pos
    by_contra hlt
    have hle : digitCount n ≤ digitCount n - 1 :=
      (Nat.length_toDigits_le_iff (by decide) (by omega)).mpr (by omega)
    omega

theorem magnitude_lt (coefficient : Nat) (exponent : Int) :
    magnitude coefficient exponent < 10 ^ (adjusted coefficient exponent + 1) := by
  have hpower : (0 : ℚ) < 10 ^ exponent := zpow_pos (by norm_num) exponent
  have hcoefficient : (coefficient : ℚ) < 10 ^ digitCount coefficient := by
    exact_mod_cast lt_pow_digitCount coefficient
  calc magnitude coefficient exponent
      < 10 ^ digitCount coefficient * 10 ^ exponent := mul_lt_mul_of_pos_right hcoefficient hpower
    _ = 10 ^ (adjusted coefficient exponent + 1) := by
      rw [← zpow_natCast, ← zpow_add₀ (by norm_num), adjusted]
      congr 1
      omega

theorem le_magnitude {coefficient : Nat} (hcoefficient : coefficient ≠ 0) (exponent : Int) :
    10 ^ adjusted coefficient exponent ≤ magnitude coefficient exponent := by
  have hpower : (0 : ℚ) ≤ 10 ^ exponent := zpow_nonneg (by norm_num) exponent
  have hpos : 0 < digitCount coefficient := Nat.length_toDigits_pos
  have hbound : (10 ^ (digitCount coefficient - 1) : ℚ) ≤ coefficient := by
    exact_mod_cast pow_le_of_ne_zero hcoefficient
  calc (10 : ℚ) ^ adjusted coefficient exponent
      = 10 ^ (digitCount coefficient - 1) * 10 ^ exponent := by
        rw [← zpow_natCast, ← zpow_add₀ (by norm_num), adjusted, Nat.cast_sub hpos]
        congr 1
        omega
    _ ≤ magnitude coefficient exponent := mul_le_mul_of_nonneg_right hbound hpower

theorem exceedsHundred_iff {coefficient : Nat} {exponent : Int} :
    exceedsHundred coefficient exponent = true ↔ 100 < magnitude coefficient exponent := by
  unfold exceedsHundred
  by_cases hzero : coefficient = 0
  · have hvalue : magnitude coefficient exponent = 0 := magnitude_eq_zero_iff.mpr hzero
    rw [hvalue, if_pos (.inl hzero)]
    norm_num
  · by_cases hsmall : adjusted coefficient exponent < 2
    · have hle : (10 : ℚ) ^ (adjusted coefficient exponent + 1) ≤ 10 ^ (2 : Int) :=
        zpow_le_zpow_right₀ (by norm_num) (by omega)
      have hlt := magnitude_lt coefficient exponent
      rw [if_pos (.inr hsmall)]
      norm_num at hle ⊢
      linarith
    · rw [if_neg (by simp [hzero, hsmall])]
      by_cases hlarge : 2 < adjusted coefficient exponent
      · have hle : (10 : ℚ) ^ (3 : Int) ≤ 10 ^ adjusted coefficient exponent :=
          zpow_le_zpow_right₀ (by norm_num) (by omega)
        have hge := le_magnitude hzero exponent
        rw [if_pos hlarge]
        norm_num at hle ⊢
        linarith
      · rw [if_neg hlarge]
        -- the leading digit stands for hundreds, so the numbers are compared as they are
        split
        · rename_i hexponent
          obtain ⟨places, rfl⟩ := Int.eq_ofNat_of_zero_le hexponent
          rw [decide_eq_true_eq, magnitude, zpow_natCast, Int.toNat_natCast]
          exact_mod_cast Iff.rfl
        · rename_i hexponent
          obtain ⟨places, hplaces⟩ := Int.eq_ofNat_of_zero_le (a := -exponent) (by omega)
          obtain rfl : exponent = -(places : Int) := by omega
          rw [decide_eq_true_eq, magnitude, zpow_neg, zpow_natCast, neg_neg, Int.toNat_natCast,
            ← div_eq_mul_inv, lt_div_iff₀ (by positivity)]
          exact_mod_cast Iff.rfl

theorem isPercentage_iff {number : Decimal} :
    number.isPercentage = true ↔ ∃ value, number.value? = some value ∧ 0 ≤ value ∧ value ≤ 100 := by
  cases number with
  | infinite | nan => simp [isPercentage, value?]
  | finite negative coefficient exponent =>
      have hnonneg := magnitude_nonneg coefficient exponent
      have hzero : magnitude coefficient exponent = 0 ↔ coefficient = 0 := magnitude_eq_zero_iff
      cases negative with
      | false =>
          have hexceeds : exceedsHundred coefficient exponent = false ↔
              magnitude coefficient exponent ≤ 100 := by
            rw [← Bool.not_eq_true, exceedsHundred_iff, not_lt]
          simp [isPercentage, value?, hnonneg, hexceeds]
      | true =>
          -- a negative number is a percentage only if it is zero
          have hbounds : 0 ≤ -magnitude coefficient exponent ∧
              -magnitude coefficient exponent ≤ 100 ↔ coefficient = 0 := by
            rw [← hzero]
            constructor
            · rintro ⟨hle, -⟩
              linarith
            · intro heq
              rw [heq]
              norm_num
          simpa [isPercentage, value?] using hbounds.symm

end Telemetry.Decimal
