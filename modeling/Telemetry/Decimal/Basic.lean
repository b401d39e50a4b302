import Telemetry.Text.Digit

namespace Telemetry

/-- A decimal number. A finite one is `± coefficient · 10 ^ exponent`; a payload of zero is none. -/
inductive Decimal where
  | finite (negative : Bool) (coefficient : Nat) (exponent : Int)
  | infinite (negative : Bool)
  | nan (negative signaling : Bool) (payload : Nat)
deriving DecidableEq, Repr

namespace Decimal

/-- How many digits a natural number has; zero has one. -/
def digitCount (n : Nat) : Nat :=
  (Text.decimalDigits n).length

/-- The exponent of the leading digit. -/
def adjusted (coefficient : Nat) (exponent : Int) : Int :=
  exponent + digitCount coefficient - 1

/-- Is the number neither infinite nor a NaN? -/
def isFinite : Decimal → Bool
  | finite .. => true
  | _ => false

/-- Is `coefficient · 10 ^ exponent` greater than one hundred? The leading digit decides unless it
stands for hundreds, and then the powers of ten are short. -/
def exceedsHundred (coefficient : Nat) (exponent : Int) : Bool :=
  let lead := adjusted coefficient exponent
  if coefficient = 0 ∨ lead < 2 then false
  else if 2 < lead then true
  else if 0 ≤ exponent then decide (100 < coefficient * Nat.pow 10 exponent.toNat)
  else decide (100 * Nat.pow 10 (-exponent).toNat < coefficient)

/-- Is the number finite, at least zero and at most one hundred? -/
def isPercentage : Decimal → Bool
  | finite negative coefficient exponent =>
    !(negative && coefficient != 0) && (negative || !exceedsHundred coefficient exponent)
  | _ => false

end Decimal

end Telemetry
