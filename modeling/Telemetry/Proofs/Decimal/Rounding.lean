import Mathlib.Algebra.Ring.Parity
import Mathlib.Tactic.Ring
import Telemetry.Decimal.Product
import Telemetry.Proofs.Decimal.Value

namespace Telemetry.Decimal

section Nearest

/-- Is this number of units nearest to `x`, and an even one if two are as near? -/
def IsNearest (unit x : ℚ) (count : ℤ) : Prop :=
  2 * |x - count * unit| < unit ∨ 2 * |x - count * unit| = unit ∧ Even count

variable {unit x : ℚ} {count other : ℤ}

theorem IsNearest.le (hcount : IsNearest unit x count) : 2 * |x - count * unit| ≤ unit := by
  rcases hcount with hlt | ⟨heq, -⟩
  · exact hlt.le
  · exact heq.le

/-- Of two nearest numbers that differ both are as near and even, but neighbours are not both even. -/
theorem IsNearest.not_lt (hunit : 0 < unit) (hcount : IsNearest unit x count)
    (hother : IsNearest unit x other) : ¬count < other := by
  intro hlt
  have hstep : unit ≤ other * unit - count * unit := by
    have hdiff : (1 : ℚ) ≤ other - count := by exact_mod_cast (by omega : 1 ≤ other - count)
    rw [← sub_mul]
    exact le_mul_of_one_le_left hunit.le hdiff
  have hright : x - count * unit ≤ |x - count * unit| := le_abs_self _
  have hleft : -(x - other * unit) ≤ |x - other * unit| := neg_le_abs _
  have hcount' := hcount.le
  have hother' := hother.le
  rcases hcount with hnear | ⟨-, heven⟩
  · linarith
  · rcases hother with hnear | ⟨-, heven'⟩
    · linarith
    · have hdiff : ((other - count : ℤ) : ℚ) * unit ≤ 1 * unit := by
        push_cast
        linarith
      have hone : other - count ≤ 1 := by exact_mod_cast le_of_mul_le_mul_right hdiff hunit
      obtain ⟨half, rfl⟩ := heven
      obtain ⟨half', rfl⟩ := heven'
      omega

theorem IsNearest.unique (hunit : 0 < unit) (hcount : IsNearest unit x count)
    (hother : IsNearest unit x other) : count = other := by
  have hlower := hcount.not_lt hunit hother
  have hupper := hother.not_lt hunit hcount
  omega

theorem IsNearest.mul (hcount : IsNearest unit x count) {factor : ℚ} (hfactor : 0 < factor) :
    IsNearest (unit * factor) (x * factor) count := by
  have hdistance : 2 * |x * factor - count * (unit * factor)| = 2 * |x - count * unit| * factor := by
    rw [mul_assoc 2, ← abs_of_pos hfactor, ← abs_mul, abs_of_pos hfactor]
    ring_nf
  rcases hcount with hlt | ⟨heq, heven⟩
  · refine .inl ?_
    rw [hdistance]
    exact mul_lt_mul_of_pos_right hlt hfactor
  · refine .inr ⟨?_, heven⟩
    rw [hdistance, heq]

theorem IsNearest.neg (hcount : IsNearest unit x count) : IsNearest unit (-x) (-count) := by
  have hdistance : |-x - ((-count : ℤ) : ℚ) * unit| = |x - count * unit| := by
    rw [← abs_neg]
    congr 1
    push_cast
    ring
  unfold IsNearest
  rw [hdistance, even_neg]
  exact hcount

theorem isNearest_self (hunit : 0 < unit) (count : ℤ) : IsNearest unit (count * unit) count := by
  refine .inl ?_
  rw [sub_self, abs_zero, mul_zero]
  exact hunit

theorem IsNearest.le_of_lt (hcount : IsNearest unit x count) {bound : ℤ} (hbound : x < bound * unit) :
    count ≤ bound := by
  by_contra hgt
  have hdistance : count * unit - x ≤ |x - count * unit| := by
    rw [abs_sub_comm]
    exact le_abs_self _
  have hunit : 0 ≤ unit := (mul_nonneg zero_le_two (abs_nonneg _)).trans hcount.le
  have hstep : ((bound : ℚ) + 1) * unit ≤ count * unit :=
    mul_le_mul_of_nonneg_right (by exact_mod_cast (by omega : bound + 1 ≤ count)) hunit
  have hnear := hcount.le
  linarith

theorem IsNearest.ge_of_le (hunit : 0 < unit) (hcount : IsNearest unit x count) {bound : ℤ}
    (hbound : bound * unit ≤ x) : bound ≤ count := by
  by_contra hlt
  have hdistance : x - count * unit ≤ |x - count * unit| := le_abs_self _
  have hstep : (count : ℚ) * unit ≤ (bound - 1) * unit :=
    mul_le_mul_of_nonneg_right (by exact_mod_cast (by omega : count ≤ bound - 1)) hunit.le
  have hnear := hcount.le
  linarith

end Nearest

/-- Is `y` what is left of `x` if it is rounded to so many significant digits, a half going to the even
neighbour? -/
def IsRounding (digits : ℕ) (x y : ℚ) : Prop :=
  ∃ place count : ℤ, 10 ^ (place + digits - 1) ≤ |x| ∧ |x| < 10 ^ (place + digits) ∧
    IsNearest (10 ^ place) x count ∧ y = count * 10 ^ place

theorem zpow_ten_pos (power : ℤ) : (0 : ℚ) < 10 ^ power :=
  zpow_pos (by norm_num) power

theorem lt_of_zpow_ten_lt {low high : ℤ} (hlt : (10 : ℚ) ^ low < 10 ^ high) : low < high :=
  (zpow_lt_zpow_iff_right₀ (by norm_num)).mp hlt

theorem zpow_ten_le {low high : ℤ} (hle : low ≤ high) : (10 : ℚ) ^ low ≤ 10 ^ high :=
  zpow_le_zpow_right₀ (by norm_num) hle

theorem zpow_ten_add (first second : ℤ) : (10 : ℚ) ^ (first + second) = 10 ^ first * 10 ^ second :=
  zpow_add₀ (by norm_num) first second

namespace IsRounding

variable {digits : ℕ} {x y z : ℚ}

theorem unique (hy : IsRounding digits x y) (hz : IsRounding digits x z) : y = z := by
  obtain ⟨place, count, hlow, hhigh, hcount, rfl⟩ := hy
  obtain ⟨place', count', hlow', hhigh', hcount', rfl⟩ := hz
  have hle := lt_of_zpow_ten_lt (hlow.trans_lt hhigh')
  have hge := lt_of_zpow_ten_lt (hlow'.trans_lt hhigh)
  obtain rfl : place = place' := by omega
  rw [hcount.unique (zpow_ten_pos place) hcount']

theorem ne_zero (hy : IsRounding digits x y) : x ≠ 0 := by
  obtain ⟨place, count, hlow, -, -, -⟩ := hy
  exact abs_pos.mp ((zpow_ten_pos _).trans_le hlow)

theorem neg (hy : IsRounding digits x y) : IsRounding digits (-x) (-y) := by
  obtain ⟨place, count, hlow, hhigh, hcount, rfl⟩ := hy
  refine ⟨place, -count, by rwa [abs_neg], by rwa [abs_neg], hcount.neg, ?_⟩
  push_cast
  ring

end IsRounding

section Magnitudes

theorem magnitude_mul (m n : ℕ) (p q : ℤ) :
    magnitude m p * magnitude n q = magnitude (m * n) (p + q) := by
  simp only [magnitude, zpow_ten_add]
  push_cast
  ring

/-- A magnitude with a sign. -/
def signed (negative : Bool) (x : ℚ) : ℚ :=
  if negative then -x else x

theorem signed_mul (a b : Bool) (x y : ℚ) : signed a x * signed b y = signed (a != b) (x * y) := by
  cases a <;> cases b <;> simp [signed]

theorem abs_signed (negative : Bool) (x : ℚ) : |signed negative x| = |x| := by
  cases negative with
  | false => rfl
  | true => exact abs_neg x

theorem signed_signed (negative : Bool) (x : ℚ) : signed negative (signed negative x) = x := by
  cases negative with
  | false => rfl
  | true => exact neg_neg x

theorem IsRounding.signed {digits : ℕ} {x y : ℚ} (hy : IsRounding digits x y) (negative : Bool) :
    IsRounding digits (signed negative x) (signed negative y) := by
  cases negative with
  | false => exact hy
  | true => exact hy.neg

end Magnitudes

section Places

variable {n unit quotient rest : ℕ}

theorem isNearest_quotient (hn : n = unit * quotient + rest)
    (hbelow : 2 * rest < unit ∨ 2 * rest = unit ∧ Even quotient) : IsNearest unit n quotient := by
  have hdistance : |(n : ℚ) - (quotient : ℤ) * unit| = rest := by
    rw [← abs_of_nonneg (Nat.cast_nonneg rest : (0 : ℚ) ≤ _), hn]
    congr 1
    push_cast
    ring
  unfold IsNearest
  rw [hdistance, Int.even_coe_nat]
  exact_mod_cast hbelow

theorem isNearest_quotient_succ (hn : n = unit * quotient + rest) (hrest : rest ≤ unit)
    (habove : unit < 2 * rest ∨ 2 * rest = unit ∧ Even (quotient + 1)) :
    IsNearest unit n (quotient + 1 : ℕ) := by
  have hdistance : |(n : ℚ) - ((quotient + 1 : ℕ) : ℤ) * unit| = (unit - rest : ℕ) := by
    rw [abs_sub_comm, ← abs_of_nonneg (Nat.cast_nonneg (unit - rest) : (0 : ℚ) ≤ _), hn,
      Nat.cast_sub hrest]
    congr 1
    push_cast
    ring
  unfold IsNearest
  rw [hdistance, Int.even_coe_nat]
  rcases habove with hgt | ⟨heq, heven⟩
  · left
    exact_mod_cast (by omega : 2 * (unit - rest) < unit)
  · right
    refine ⟨?_, heven⟩
    exact_mod_cast (by omega : 2 * (unit - rest) = unit)

theorem isNearest_dropPlaces (n places : ℕ) :
    IsNearest ((10 ^ places : ℕ) : ℚ) n (dropPlaces n places) := by
  have hunit : 0 < 10 ^ places := Nat.pow_pos (by decide)
  have hdiv := (Nat.div_add_mod n (10 ^ places)).symm
  have hmod := Nat.mod_lt n hunit
  unfold dropPlaces
  split
  · rename_i hshort
    have hn := lt_pow_digitCount n
    have hpower : 10 ^ digitCount n * 10 ≤ 10 ^ places := by
      rw [← pow_succ]
      exact Nat.pow_le_pow_right (by decide) hshort
    have hzero : n = 10 ^ places * 0 + n := by omega
    exact isNearest_quotient hzero (.inl (by omega))
  · simp only [Nat.pow_eq]
    split
    · rename_i habove
      refine isNearest_quotient_succ hdiv hmod.le ?_
      rcases habove with hgt | ⟨heq, hodd⟩
      · exact .inl hgt
      · exact .inr ⟨heq, Nat.even_add_one.mpr (Nat.not_even_iff.mpr hodd)⟩
    · rename_i hbelow
      refine isNearest_quotient hdiv ?_
      rw [Nat.even_iff]
      omega

theorem isNearest_dropPlaces_magnitude (coefficient : ℕ) (exponent : ℤ) (places : ℕ) :
    IsNearest (10 ^ (exponent + places)) (magnitude coefficient exponent)
      (dropPlaces coefficient places) := by
  have hunit : ((10 ^ places : ℕ) : ℚ) * 10 ^ exponent = 10 ^ (exponent + places) := by
    rw [zpow_ten_add, zpow_natCast, mul_comm]
    push_cast
    rfl
  rw [← hunit]
  exact (isNearest_dropPlaces coefficient places).mul (zpow_ten_pos exponent)

theorem dropPlaces_le {places digits : ℕ} (hn : n < 10 ^ (digits + places)) :
    dropPlaces n places ≤ 10 ^ digits := by
  have hbound : (n : ℚ) < ((10 ^ digits : ℕ) : ℤ) * ((10 ^ places : ℕ) : ℚ) := by
    rw [pow_add] at hn
    exact_mod_cast hn
  exact_mod_cast (isNearest_dropPlaces n places).le_of_lt hbound

end Places

end Telemetry.Decimal
