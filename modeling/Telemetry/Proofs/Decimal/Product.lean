import Telemetry.Proofs.Decimal.Rounding

namespace Telemetry.Decimal

section Shortening

variable {coefficient : ℕ} {exponent : ℤ}

theorem digitCount_le_iff {n digits : ℕ} (hdigits : 0 < digits) :
    digitCount n ≤ digits ↔ n < 10 ^ digits :=
  Nat.length_toDigits_le_iff (by decide) hdigits

theorem ne_zero_of_digits (hlong : precision < digitCount coefficient) : coefficient ≠ 0 := by
  rintro rfl
  exact absurd hlong (by decide)

theorem lt_adjusted_iff (hcoefficient : coefficient ≠ 0) {place : ℤ} :
    place < adjusted coefficient exponent ↔ 10 ^ (place + 1) ≤ magnitude coefficient exponent := by
  constructor
  · intro hlt
    exact (zpow_ten_le (by omega)).trans (le_magnitude hcoefficient exponent)
  · intro hle
    have hlt := lt_of_zpow_ten_lt (hle.trans_lt (magnitude_lt coefficient exponent))
    omega

/-- The place of the last of so many significant digits. -/
def lastPlace (digits coefficient : ℕ) (exponent : ℤ) : ℤ :=
  adjusted coefficient exponent + 1 - digits

theorem isRounding_magnitude_iff (hcoefficient : coefficient ≠ 0) {digits : ℕ} {y : ℚ} :
    IsRounding digits (magnitude coefficient exponent) y ↔
      ∃ count : ℤ, IsNearest (10 ^ lastPlace digits coefficient exponent)
          (magnitude coefficient exponent) count ∧
        y = count * 10 ^ lastPlace digits coefficient exponent := by
  have hlow := le_magnitude hcoefficient exponent
  have hhigh := magnitude_lt coefficient exponent
  constructor
  · rintro ⟨place, count, hlow', hhigh', hcount, rfl⟩
    rw [abs_of_nonneg (magnitude_nonneg _ _)] at hlow' hhigh'
    have hle := lt_of_zpow_ten_lt (hlow.trans_lt hhigh')
    have hge := lt_of_zpow_ten_lt (hlow'.trans_lt hhigh)
    obtain rfl : place = lastPlace digits coefficient exponent := by
      unfold lastPlace
      omega
    exact ⟨count, hcount, rfl⟩
  · rintro ⟨count, hcount, rfl⟩
    refine ⟨lastPlace digits coefficient exponent, count, ?_, ?_, hcount, rfl⟩
    · rw [abs_of_nonneg (magnitude_nonneg _ _)]
      exact (zpow_ten_le (by unfold lastPlace; omega)).trans hlow
    · rw [abs_of_nonneg (magnitude_nonneg _ _)]
      exact hhigh.trans_le (zpow_ten_le (by unfold lastPlace; omega))

theorem IsRounding.bounds (hcoefficient : coefficient ≠ 0) {digits : ℕ} (hdigits : 0 < digits) {y : ℚ}
    (hy : IsRounding digits (magnitude coefficient exponent) y) :
    10 ^ adjusted coefficient exponent ≤ y ∧ y ≤ 10 ^ (adjusted coefficient exponent + 1) := by
  obtain ⟨count, hcount, rfl⟩ := (isRounding_magnitude_iff hcoefficient).mp hy
  have hunit := zpow_ten_pos (lastPlace digits coefficient exponent)
  have hlow : (10 : ℚ) ^ adjusted coefficient exponent =
      ((10 ^ (digits - 1) : ℕ) : ℤ) * 10 ^ lastPlace digits coefficient exponent := by
    push_cast
    rw [← zpow_natCast, ← zpow_ten_add, lastPlace]
    congr 1
    omega
  have hhigh : (10 : ℚ) ^ (adjusted coefficient exponent + 1) =
      ((10 ^ digits : ℕ) : ℤ) * 10 ^ lastPlace digits coefficient exponent := by
    push_cast
    rw [← zpow_natCast, ← zpow_ten_add, lastPlace]
    congr 1
    omega
  have hge := hcount.ge_of_le hunit (hlow.symm.trans_le (le_magnitude hcoefficient exponent))
  have hle := hcount.le_of_lt ((magnitude_lt coefficient exponent).trans_eq hhigh)
  rw [hlow, hhigh]
  constructor
  · exact mul_le_mul_of_nonneg_right (by exact_mod_cast hge) hunit.le
  · exact mul_le_mul_of_nonneg_right (by exact_mod_cast hle) hunit.le

theorem IsRounding.pos {digits : ℕ} (hdigits : 0 < digits) {y : ℚ}
    (hy : IsRounding digits (magnitude coefficient exponent) y) : 0 < y := by
  have hcoefficient : coefficient ≠ 0 := fun hzero => hy.ne_zero (magnitude_eq_zero_iff.mpr hzero)
  exact (zpow_ten_pos _).trans_le (hy.bounds hcoefficient hdigits).1

theorem magnitude_mul_ten (coefficient : ℕ) (exponent : ℤ) :
    magnitude (coefficient * 10) exponent = magnitude coefficient (exponent + 1) := by
  rw [magnitude, magnitude, zpow_ten_add, zpow_one]
  push_cast
  ring

/-- A carry leaves a power of ten, so that nothing is lost with the digit that it adds. -/
theorem dropPlaces_of_carry
    (hcarry : precision < digitCount (dropPlaces coefficient (digitCount coefficient - precision))) :
    dropPlaces coefficient (digitCount coefficient - precision) = 10 ^ (precision - 1) * 10 := by
  have hpower : 10 ^ (precision - 1) * 10 = 10 ^ precision := rfl
  have hshort : coefficient < 10 ^ (precision + (digitCount coefficient - precision)) :=
    (lt_pow_digitCount coefficient).trans_le (Nat.pow_le_pow_right (by decide) (by omega))
  have hle := dropPlaces_le hshort
  have hge : ¬dropPlaces coefficient (digitCount coefficient - precision) < 10 ^ precision := by
    rw [← digitCount_le_iff (by decide)]
    omega
  omega

theorem magnitude_shorten (hlong : precision < digitCount coefficient) (exponent : ℤ) :
    magnitude (shorten coefficient exponent).1 (shorten coefficient exponent).2 =
      magnitude (dropPlaces coefficient (digitCount coefficient - precision))
        (exponent + (digitCount coefficient - precision : ℕ)) := by
  unfold shorten
  simp only [if_neg (not_le_of_gt hlong)]
  split
  · rename_i hcarry
    rw [dropPlaces_of_carry hcarry, Nat.mul_div_cancel _ (by decide), magnitude_mul_ten]
  · rfl

theorem digitCount_shorten_le (coefficient : ℕ) (exponent : ℤ) :
    digitCount (shorten coefficient exponent).1 ≤ precision := by
  unfold shorten
  dsimp only
  split
  · assumption
  · split
    · rename_i hcarry
      rw [dropPlaces_of_carry hcarry, Nat.mul_div_cancel _ (by decide)]
      exact (digitCount_le_iff (by decide)).mpr (Nat.pow_lt_pow_right (by decide) (by decide))
    · rename_i hfits
      exact not_lt.mp hfits

theorem isRounding_shorten (hcoefficient : coefficient ≠ 0) (exponent : ℤ) :
    IsRounding precision (magnitude coefficient exponent)
      (magnitude (shorten coefficient exponent).1 (shorten coefficient exponent).2) := by
  rw [isRounding_magnitude_iff hcoefficient]
  by_cases hlong : precision < digitCount coefficient
  · have hplace : lastPlace precision coefficient exponent =
        exponent + (digitCount coefficient - precision : ℕ) := by
      unfold lastPlace adjusted
      omega
    rw [hplace, magnitude_shorten hlong]
    exact ⟨_, isNearest_dropPlaces_magnitude _ _ _, rfl⟩
  · have hsame : shorten coefficient exponent = (coefficient, exponent) := if_pos (not_lt.mp hlong)
    obtain ⟨zeros, hzeros⟩ : ∃ zeros : ℕ,
        exponent = zeros + lastPlace precision coefficient exponent := by
      refine ⟨(exponent - lastPlace precision coefficient exponent).toNat, ?_⟩
      unfold lastPlace adjusted
      omega
    have hwhole : magnitude coefficient exponent = ((coefficient * 10 ^ zeros : ℕ) : ℤ) *
        10 ^ lastPlace precision coefficient exponent := by
      have hpower : (10 : ℚ) ^ exponent =
          10 ^ zeros * 10 ^ lastPlace precision coefficient exponent := by
        rw [← zpow_natCast, ← zpow_ten_add, ← hzeros]
      rw [magnitude, hpower]
      push_cast
      ring
    refine ⟨(coefficient * 10 ^ zeros : ℕ), ?_, ?_⟩
    · rw [hwhole]
      exact isNearest_self (zpow_ten_pos _) _
    · rw [hsame]
      exact hwhole

theorem shorten_ne_zero (hcoefficient : coefficient ≠ 0) (exponent : ℤ) :
    (shorten coefficient exponent).1 ≠ 0 := by
  intro hzero
  have hbound := ((isRounding_shorten hcoefficient exponent).bounds hcoefficient (by decide)).1
  rw [magnitude_eq_zero_iff.mpr hzero] at hbound
  exact absurd hbound (not_le.mpr (zpow_ten_pos _))

end Shortening

section Fitting

variable {coefficient : ℕ} {exponent : ℤ}

/-- Are these the digits of a number that products keep as it is? -/
structure InRange (coefficient : ℕ) (exponent : ℤ) : Prop where
  digits : digitCount coefficient ≤ precision
  last : minLast ≤ exponent
  leading : adjusted coefficient exponent ≤ maxExponent

theorem digitCount_zero : digitCount 0 = 1 :=
  rfl

theorem inRange_zero (exponent : ℤ) : InRange 0 (zeroExponent exponent) := by
  have hrange : minLast ≤ zeroExponent exponent ∧ zeroExponent exponent ≤ maxExponent := by
    unfold zeroExponent minLast minNormal maxExponent precision
    split
    · omega
    · split <;> omega
  refine ⟨by decide, hrange.1, ?_⟩
  rw [adjusted, digitCount_zero]
  omega

theorem inRange_dropPlaces (hsmall : adjusted coefficient exponent < minNormal)
    (hlast : exponent < minLast) :
    InRange (dropPlaces coefficient (minLast - exponent).toNat) minLast := by
  have hshort : coefficient < 10 ^ (precision - 1 + (minLast - exponent).toNat) := by
    refine (lt_pow_digitCount coefficient).trans_le (Nat.pow_le_pow_right (by decide) ?_)
    unfold adjusted at hsmall
    unfold minLast minNormal precision at *
    omega
  have hle := dropPlaces_le hshort
  have hdigits : digitCount (dropPlaces coefficient (minLast - exponent).toNat) ≤ precision :=
    (digitCount_le_iff (by decide)).mpr (hle.trans_lt (by decide))
  refine ⟨hdigits, le_rfl, ?_⟩
  unfold adjusted
  unfold minLast minNormal maxExponent precision at *
  omega

theorem inRange_shorten (hlarge : minNormal ≤ adjusted coefficient exponent)
    (hleading : adjusted (shorten coefficient exponent).1 (shorten coefficient exponent).2 ≤
      maxExponent) :
    InRange (shorten coefficient exponent).1 (shorten coefficient exponent).2 := by
  refine ⟨digitCount_shorten_le coefficient exponent, ?_, hleading⟩
  unfold adjusted at hlarge
  unfold shorten
  dsimp only
  unfold minLast minNormal precision at *
  split
  · dsimp only
    omega
  · split <;> dsimp only <;> omega

theorem exists_inRange_of_fit {negative : Bool} {number : Decimal}
    (hfit : fit negative coefficient exponent = .ok number) :
    ∃ coefficient' exponent', number = finite negative coefficient' exponent' ∧
      InRange coefficient' exponent' := by
  unfold fit at hfit
  split at hfit
  · exact ⟨_, _, (Except.ok.inj hfit).symm, inRange_zero exponent⟩
  · split at hfit
    · rename_i hsmall
      split at hfit
      · rename_i hlast
        exact ⟨_, _, (Except.ok.inj hfit).symm, inRange_dropPlaces hsmall hlast⟩
      · rename_i hlast
        refine ⟨_, _, (Except.ok.inj hfit).symm, ?_, not_lt.mp hlast, ?_⟩
        · unfold adjusted at hsmall
          unfold minLast minNormal precision at *
          omega
        · unfold minNormal at hsmall
          unfold maxExponent
          omega
    · rename_i hlarge
      dsimp only at hfit
      split at hfit
      · contradiction
      · rename_i hleading
        exact ⟨_, _, (Except.ok.inj hfit).symm,
          inRange_shorten (not_lt.mp hlarge) (not_lt.mp hleading)⟩

theorem fit_of_digits (hdigits : digitCount coefficient ≤ precision)
    (hlow : minNormal ≤ adjusted coefficient exponent)
    (hhigh : adjusted coefficient exponent ≤ maxExponent) (negative : Bool) :
    fit negative coefficient exponent = .ok (finite negative coefficient exponent) := by
  by_cases hzero : coefficient = 0
  · subst hzero
    have hkept : zeroExponent exponent = exponent := by
      rw [adjusted, digitCount_zero] at hlow hhigh
      unfold zeroExponent minLast minNormal precision at *
      rw [if_neg (by omega), if_neg (by omega)]
    rw [fit, if_pos rfl, hkept]
  · have hsame : shorten coefficient exponent = (coefficient, exponent) := if_pos hdigits
    rw [fit, if_neg hzero, if_neg (not_lt.mpr hlow), hsame]
    exact if_neg (not_lt.mpr hhigh)

/-- A product with too many digits just below the least exponent can be rounded up to it. Then the
digits that it may keep there give the same number. -/
theorem magnitude_dropPlaces_of_rounding (hlong : precision < digitCount coefficient)
    (hsmall : adjusted coefficient exponent < minNormal) {y : ℚ}
    (hy : IsRounding precision (magnitude coefficient exponent) y) (hlow : 10 ^ minNormal ≤ y) :
    exponent < minLast ∧
      magnitude (dropPlaces coefficient (minLast - exponent).toNat) minLast = y := by
  have hcoefficient := ne_zero_of_digits hlong
  have hhigh := (hy.bounds hcoefficient (by decide)).2
  have hedge : adjusted coefficient exponent + 1 = minNormal := by
    have hle := (zpow_le_zpow_iff_right₀ (by norm_num : (1 : ℚ) < 10)).mp (hlow.trans hhigh)
    omega
  obtain rfl : y = 10 ^ minNormal := le_antisymm (hedge ▸ hhigh) hlow
  have hlast : exponent < minLast := by
    unfold adjusted at hedge
    unfold minLast minNormal precision at *
    omega
  refine ⟨hlast, ?_⟩
  have hnearest := isNearest_dropPlaces_magnitude coefficient exponent (minLast - exponent).toNat
  have hplaces : exponent + (minLast - exponent).toNat = minLast := by omega
  have hwhole : (10 : ℚ) ^ minNormal = ((10 ^ (precision - 1) : ℕ) : ℤ) * 10 ^ minLast := by
    push_cast
    rw [← zpow_natCast, ← zpow_ten_add]
    rfl
  have hedge' : IsNearest (10 ^ minLast) (magnitude coefficient exponent)
      (10 ^ (precision - 1) : ℕ) := by
    obtain ⟨count, hcount, hvalue⟩ := (isRounding_magnitude_iff hcoefficient).mp hy
    have hfiner : (10 : ℚ) ^ lastPlace precision coefficient exponent < 10 ^ minLast := by
      refine (zpow_lt_zpow_iff_right₀ (by norm_num)).mpr ?_
      unfold lastPlace minLast precision
      omega
    refine .inl ?_
    rw [← hwhole, hvalue]
    exact hcount.le.trans_lt hfiner
  rw [hplaces] at hnearest
  rw [magnitude, hwhole, ← hnearest.unique (zpow_ten_pos minLast) hedge']
  rfl

theorem exists_fit_of_rounding (hlong : precision < digitCount coefficient) {y : ℚ}
    (hy : IsRounding precision (magnitude coefficient exponent) y) (hlow : 10 ^ minNormal ≤ y)
    (hhigh : y < 10 ^ (maxExponent + 1)) (negative : Bool) :
    ∃ coefficient' exponent',
      fit negative coefficient exponent = .ok (finite negative coefficient' exponent') ∧
        magnitude coefficient' exponent' = y := by
  have hcoefficient := ne_zero_of_digits hlong
  by_cases hsmall : adjusted coefficient exponent < minNormal
  · obtain ⟨hlast, hvalue⟩ := magnitude_dropPlaces_of_rounding hlong hsmall hy hlow
    refine ⟨_, _, ?_, hvalue⟩
    rw [fit, if_neg hcoefficient, if_pos hsmall, if_pos hlast]
  · have hvalue := (isRounding_shorten hcoefficient exponent).unique hy
    have hleading : ¬maxExponent <
        adjusted (shorten coefficient exponent).1 (shorten coefficient exponent).2 := by
      rw [lt_adjusted_iff (shorten_ne_zero hcoefficient exponent), hvalue, not_le]
      exact hhigh
    refine ⟨_, _, ?_, hvalue⟩
    rw [fit, if_neg hcoefficient, if_neg hsmall]
    exact if_neg hleading

end Fitting

section Products

variable {a b : Bool} {m n : ℕ} {p q : ℤ}

theorem signed_magnitude_mul (a b : Bool) (m n : ℕ) (p q : ℤ) :
    signed a (magnitude m p) * signed b (magnitude n q) =
      signed (a != b) (magnitude (m * n) (p + q)) := by
  rw [signed_mul, magnitude_mul]

theorem exists_isRounding_mul (hproduct : m * n ≠ 0) (a b : Bool) (p q : ℤ) :
    ∃ z, IsRounding precision (signed a (magnitude m p) * signed b (magnitude n q)) z := by
  rw [signed_magnitude_mul]
  exact ⟨_, (isRounding_shorten hproduct (p + q)).signed (a != b)⟩

theorem product_of_digits (hdigits : digitCount (m * n) ≤ precision)
    (hlow : minNormal ≤ adjusted (m * n) (p + q)) (hhigh : adjusted (m * n) (p + q) ≤ maxExponent) :
    (finite a m p).product (finite b n q) = .ok (finite (a != b) (m * n) (p + q)) :=
  fit_of_digits hdigits hlow hhigh (a != b)

theorem exists_product_of_rounding (hlong : precision < digitCount (m * n)) {z : ℚ}
    (hz : IsRounding precision (signed a (magnitude m p) * signed b (magnitude n q)) z)
    (hlow : 10 ^ minNormal ≤ |z|) (hhigh : |z| < 10 ^ (maxExponent + 1)) :
    ∃ number, (finite a m p).product (finite b n q) = .ok number ∧ number.value? = some z := by
  rw [signed_magnitude_mul] at hz
  have hy := hz.signed (a != b)
  rw [signed_signed] at hy
  rw [← abs_signed (a != b), abs_of_pos (hy.pos (by decide))] at hlow hhigh
  obtain ⟨coefficient, exponent, hfit, hvalue⟩ := exists_fit_of_rounding hlong hy hlow hhigh (a != b)
  refine ⟨_, hfit, ?_⟩
  change some (signed (a != b) (magnitude coefficient exponent)) = some z
  rw [hvalue, signed_signed]

end Products

end Telemetry.Decimal
