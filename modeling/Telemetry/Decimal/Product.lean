import Telemetry.Decimal.Basic

namespace Telemetry.Decimal

/-- The significant digits that a product keeps. -/
def precision : Nat := 28

/-- The largest exponent of a leading digit of a product. -/
def maxExponent : Int := 999999

/-- The least exponent of a leading digit of a product that keeps all digits. -/
def minNormal : Int := -999999

/-- The least exponent of a last digit of a product. -/
def minLast : Int := minNormal - (precision - 1)

inductive ProductFault where
  | overflow
  | undefined
deriving DecidableEq, Repr

/-- `n / 10 ^ places` to the nearest whole number, a half to the even neighbour. -/
def dropPlaces (n places : Nat) : Nat :=
  if digitCount n < places then 0
  else
    let unit := Nat.pow 10 places
    let quotient := n / unit
    let double := 2 * (n % unit)
    if unit < double ∨ (double = unit ∧ quotient % 2 = 1) then quotient + 1 else quotient

/-- A zero keeps its exponent as far as the range goes. -/
def zeroExponent (exponent : Int) : Int :=
  if maxExponent < exponent then maxExponent else if exponent < minLast then minLast else exponent

/-- Keeps at most `precision` digits of a coefficient; a carry may lengthen it once more. -/
def shorten (coefficient : Nat) (exponent : Int) : Nat × Int :=
  let count := digitCount coefficient
  if count ≤ precision then (coefficient, exponent)
  else
    let places := count - precision
    let short := dropPlaces coefficient places
    if precision < digitCount short then (short / 10, exponent + places + 1)
    else (short, exponent + places)

/-- The number nearest to an exact product that fits the precision and the exponent range. -/
def fit (negative : Bool) (coefficient : Nat) (exponent : Int) : Except ProductFault Decimal :=
  if coefficient = 0 then .ok (finite negative 0 (zeroExponent exponent))
  else if adjusted coefficient exponent < minNormal then
    if exponent < minLast then
      .ok (finite negative (dropPlaces coefficient (minLast - exponent).toNat) minLast)
    else .ok (finite negative coefficient exponent)
  else
    let (coefficient, exponent) := shorten coefficient exponent
    if maxExponent < adjusted coefficient exponent then .error .overflow
    else .ok (finite negative coefficient exponent)

/-- The product of two numbers. A quiet NaN passes through with the digits behind it that fit. -/
def product : Decimal → Decimal → Except ProductFault Decimal
  | nan _ true _, _ => .error .undefined
  | _, nan _ true _ => .error .undefined
  | nan negative false payload, _ => .ok (nan negative false (payload % Nat.pow 10 precision))
  | _, nan negative false payload => .ok (nan negative false (payload % Nat.pow 10 precision))
  | infinite a, infinite b => .ok (infinite (a != b))
  | infinite a, finite b coefficient _ =>
    if coefficient = 0 then .error .undefined else .ok (infinite (a != b))
  | finite a coefficient _, infinite b =>
    if coefficient = 0 then .error .undefined else .ok (infinite (a != b))
  | finite a m p, finite b n q => fit (a != b) (m * n) (p + q)

end Telemetry.Decimal
