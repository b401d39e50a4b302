import Telemetry.Binary64.Basic
import Telemetry.Text.Digit

namespace Telemetry.Binary64

/-- Twice the mantissas of the ends of the interval of reals that round to a number, with the
exponent one less. Below a power of two the neighbour is twice as close. -/
def ends (mantissa : Nat) (exponent : Int) : Nat × Nat × Int :=
  if mantissa = Nat.pow 2 52 ∧ minExponent < exponent
  then (4 * mantissa - 1, 4 * mantissa + 2, exponent - 2)
  else (2 * mantissa - 1, 2 * mantissa + 1, exponent - 1)

/-- Is `n · 10 ^ power` at most `m · 2 ^ exponent`? -/
def decimalLe (n : Nat) (power : Int) (m : Nat) (exponent : Int) : Bool :=
  let (num, den) := scaled m exponent
  if 0 ≤ power then n * Nat.pow 10 power.toNat * den ≤ num
  else n * den ≤ num * Nat.pow 10 (-power).toNat

/-- Is `m · 2 ^ exponent` at most `n · 10 ^ power`? -/
def decimalGe (n : Nat) (power : Int) (m : Nat) (exponent : Int) : Bool :=
  let (num, den) := scaled m exponent
  if 0 ≤ power then num ≤ n * Nat.pow 10 power.toNat * den
  else num * Nat.pow 10 (-power).toNat ≤ n * den

/-- Does `n · 10 ^ power` read back as the number? The ends do if the mantissa is even. -/
def readsBack (mantissa : Nat) (exponent : Int) (n : Nat) (power : Int) : Bool :=
  let (low, high, exponent) := ends mantissa exponent
  if mantissa % 2 = 0 then decimalGe n power low exponent && decimalLe n power high exponent
  else !decimalLe n power low exponent && !decimalGe n power high exponent

/-- `⌊m · 2 ^ exponent / 10 ^ power⌋`, and whether the rest is more than half a unit, with a half
counted if the quotient is odd. -/
def onGrid (m : Nat) (exponent power : Int) : Nat × Bool :=
  let (num, den) := scaled m exponent
  let (num, den) :=
    if 0 ≤ power then (num, den * Nat.pow 10 power.toNat) else (num * Nat.pow 10 (-power).toNat, den)
  let quotient := num / den
  (quotient, den < 2 * (num % den) || (den == 2 * (num % den) && quotient % 2 == 1))

/-- The digits on the grid of `10 ^ power` that read back, if any do: the nearer neighbour of the
number, else the farther one. -/
def hit? (mantissa : Nat) (exponent power : Int) : Option Nat :=
  let (low, up) := onGrid mantissa exponent power
  [if up then low + 1 else low, if up then low else low + 1].find? fun n =>
    n != 0 && readsBack mantissa exponent n power

/-- The first hit on grids of falling powers of ten, with its power. -/
def firstHit (mantissa : Nat) (exponent : Int) : (grids : Nat) → (power : Int) → Nat × Int
  | 0, power => ((onGrid mantissa exponent power).1, power)
  | grids + 1, power =>
    match hit? mantissa exponent power with
    | some n => (n, power)
    | none => firstHit mantissa exponent grids (power - 1)

/-- The decimal exponent of a positive number, or one more. -/
def leadingPower (mantissa : Nat) (exponent : Int) : Int :=
  let (num, den) := scaled mantissa exponent
  (Text.decimalDigits num).length - (Text.decimalDigits den).length + 1

/-- Drops zeros at the end of the digits of a number. -/
def withoutZeros (digits : List Char) : List Char :=
  (digits.reverse.dropWhile (· = '0')).reverse

/-- The shortest digits of a positive number, and how many of them stand before the point. -/
def shortest (mantissa : Nat) (exponent : Int) : List Char × Int :=
  let (n, power) := firstHit mantissa exponent 20 (leadingPower mantissa exponent)
  let digits := Text.decimalDigits n
  (withoutZeros digits, power + digits.length)

/-- The exponent behind the digits, of at least two digits. -/
def exponentText (power : Int) : List Char :=
  let digits := Text.decimalDigits power.natAbs
  'e' :: (if power < 0 then '-' else '+') :: (List.replicate (2 - digits.length) '0' ++ digits)

/-- Digits with a point after the first `place` of them. -/
def digitsText (digits : List Char) (place : Int) : List Char :=
  if -4 < place ∧ place ≤ 16 then
    if place ≤ 0 then '0' :: '.' :: (List.replicate (-place).toNat '0' ++ digits)
    else if digits.length ≤ place.toNat then
      digits ++ List.replicate (place.toNat - digits.length) '0' ++ ['.', '0']
    else digits.take place.toNat ++ '.' :: digits.drop place.toNat
  else
    digits.take 1 ++ (if digits.length ≤ 1 then [] else '.' :: digits.drop 1) ++
      exponentText (place - 1)

def toText : Binary64 → String
  | finite negative mantissa exponent =>
    let magnitude :=
      if mantissa = 0 then ['0', '.', '0']
      else
        let (digits, place) := shortest mantissa exponent
        digitsText digits place
    String.ofList (if negative then '-' :: magnitude else magnitude)
  | infinite negative => if negative then "-inf" else "inf"
  | nan => "nan"

end Telemetry.Binary64
