import Mathlib.Algebra.Order.Field.Basic
import Mathlib.Data.Rat.Cast.Defs
import Telemetry.Binary64.Basic

namespace Telemetry.Binary64

/-- The exact value of a finite number. -/
def value? : Binary64 → Option ℚ
  | finite negative mantissa exponent => some (signed negative mantissa * 2 ^ exponent)
  | _ => none

variable {x : Binary64} {n : Int}

theorem scaled_den_pos (mantissa : Nat) (exponent : Int) : 0 < (scaled mantissa exponent).2 := by
  rw [scaled]
  split
  · exact Nat.one_pos
  · exact Nat.pow_pos Nat.two_pos

theorem scaled_value (mantissa : Nat) (exponent : Int) :
    ((scaled mantissa exponent).1 : ℚ) = mantissa * 2 ^ exponent * (scaled mantissa exponent).2 := by
  rw [scaled]
  split
  · rename_i hexponent
    obtain ⟨power, rfl⟩ := Int.eq_ofNat_of_zero_le hexponent
    simp
  · rename_i hexponent
    obtain ⟨power, rfl⟩ : ∃ power : Nat, exponent = -power :=
      ⟨(-exponent).toNat, by omega⟩
    simp

theorem value?_eq_some_iff {negative : Bool} {mantissa : Nat} {exponent : Int} :
    (finite negative mantissa exponent).value? = some (n : ℚ) ↔
      signed negative (scaled mantissa exponent).1 = n * (scaled mantissa exponent).2 := by
  have hden : ((scaled mantissa exponent).2 : ℚ) ≠ 0 :=
    Nat.cast_ne_zero.mpr (scaled_den_pos mantissa exponent).ne'
  have hsigned : ((signed negative (scaled mantissa exponent).1 : Int) : ℚ) =
      signed negative mantissa * 2 ^ exponent * (scaled mantissa exponent).2 := by
    cases negative <;> simp [signed, scaled_value]
  rw [value?, Option.some.injEq, ← mul_left_inj' hden, ← hsigned]
  exact_mod_cast Iff.rfl

theorem isWhole_iff : x.isWhole = true ↔ ∃ n : Int, x.value? = some (n : ℚ) := by
  cases x with
  | infinite negative => simp [isWhole, value?]
  | nan => simp [isWhole, value?]
  | finite negative mantissa exponent =>
      simp only [value?_eq_some_iff, isWhole, beq_iff_eq]
      rw [← Nat.dvd_iff_mod_eq_zero]
      constructor
      · rintro ⟨quotient, hquotient⟩
        refine ⟨signed negative quotient, ?_⟩
        rw [hquotient]
        cases negative <;> simp [signed, Int.mul_comm]
      · rintro ⟨n, hn⟩
        have hdvd : ((scaled mantissa exponent).2 : Int) ∣ signed negative (scaled mantissa exponent).1 :=
          Dvd.intro_left n hn.symm
        cases negative with
        | false => exact Int.natCast_dvd_natCast.mp hdvd
        | true => exact Int.natCast_dvd_natCast.mp (Int.dvd_neg.mp hdvd)

theorem truncate?_of_value? (hvalue : x.value? = some (n : ℚ)) : x.truncate? = some n := by
  cases x with
  | infinite negative => contradiction
  | nan => contradiction
  | finite negative mantissa exponent =>
      rw [value?_eq_some_iff] at hvalue
      have hden : ((scaled mantissa exponent).2 : Int) ≠ 0 :=
        Int.natCast_ne_zero.mpr (scaled_den_pos mantissa exponent).ne'
      have htruncate : (finite negative mantissa exponent).truncate? =
          some (signed negative ((scaled mantissa exponent).1 / (scaled mantissa exponent).2)) := rfl
      rw [htruncate, Option.some.injEq]
      cases negative with
      | false =>
          have hnum : ((scaled mantissa exponent).1 : Int) = n * (scaled mantissa exponent).2 := hvalue
          rw [signed, if_neg Bool.false_ne_true, Int.natCast_ediv, hnum, Int.mul_ediv_cancel _ hden]
      | true =>
          have hnum : ((scaled mantissa exponent).1 : Int) = -n * (scaled mantissa exponent).2 := by
            rw [Int.neg_mul, ← hvalue]
            exact (Int.neg_neg _).symm
          rw [signed, if_pos rfl, Int.natCast_ediv, hnum, Int.mul_ediv_cancel _ hden, Int.neg_neg]

theorem isBelow_iff (hvalue : x.value? = some (n : ℚ)) {bound : Int} :
    x.isBelow bound = true ↔ n < bound := by
  cases x with
  | infinite negative => contradiction
  | nan => contradiction
  | finite negative mantissa exponent =>
      rw [value?_eq_some_iff] at hvalue
      have hden : (0 : Int) < (scaled mantissa exponent).2 :=
        Int.natCast_pos.mpr (scaled_den_pos mantissa exponent)
      rw [isBelow, decide_eq_true_eq, hvalue]
      exact Int.mul_lt_mul_right hden

end Telemetry.Binary64
