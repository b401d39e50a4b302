import Telemetry.Decimal.Basic

namespace Telemetry.Decimal

def signText (negative : Bool) : List Char :=
  if negative then ['-'] else []

/-- A signed power of ten, as in `E+3`. -/
def exponentText (power : Int) : List Char :=
  if power < 0 then 'E' :: '-' :: Text.decimalDigits power.natAbs
  else 'E' :: '+' :: Text.decimalDigits power.natAbs

/-- Sets a point after the first `place` digits; for none or fewer, zeros lead. -/
def pointed (digits : List Char) (place : Int) : List Char :=
  if place ≤ 0 then '0' :: '.' :: (List.replicate (-place).toNat '0' ++ digits)
  else if digits.length ≤ place.toNat then digits
  else digits.take place.toNat ++ '.' :: digits.drop place.toNat

/-- The digits of a finite number without its sign. -/
def magnitudeText (coefficient : Nat) (exponent : Int) : List Char :=
  let digits := Text.decimalDigits coefficient
  let place := exponent + digits.length
  if exponent ≤ 0 ∧ -6 < place then pointed digits place
  else
    let power := place - 1
    pointed digits 1 ++ (if power = 0 then [] else exponentText power)

/-- The digits behind a NaN. -/
def payloadText (payload : Nat) : List Char :=
  if payload = 0 then [] else Text.decimalDigits payload

def chars : Decimal → List Char
  | finite negative coefficient exponent => signText negative ++ magnitudeText coefficient exponent
  | infinite negative => signText negative ++ "Infinity".toList
  | nan negative false payload => signText negative ++ "NaN".toList ++ payloadText payload
  | nan negative true payload => signText negative ++ "sNaN".toList ++ payloadText payload

def toText (number : Decimal) : String :=
  String.ofList number.chars

end Telemetry.Decimal
