import Telemetry.Binary64.Basic
import Telemetry.Decimal.Reader

namespace Telemetry.Binary64

/-- The number nearest to `coefficient · 10 ^ exponent`. Far outside the range of the exponents the
power of ten is not computed. -/
def ofDecimal (negative : Bool) (coefficient : Nat) (exponent : Int) : Binary64 :=
  let lead := Decimal.adjusted coefficient exponent
  if coefficient = 0 ∨ lead < -400 then finite negative 0 minExponent
  else if 400 < lead then infinite negative
  else if 0 ≤ exponent then ofRatio negative (coefficient * Nat.pow 10 exponent.toNat) 1
  else ofRatio negative coefficient (Nat.pow 10 (-exponent).toNat)

/-- Are the underscores of a number between digits? -/
def underscoresFit : (afterDigit : Bool) → List Char → Bool
  | _, [] => true
  | afterDigit, '_' :: c :: rest =>
    afterDigit && (Text.digit? c).isSome && underscoresFit false (c :: rest)
  | _, ['_'] => false
  | _, c :: rest => underscoresFit (Text.digit? c).isSome rest

/-- The number that a text stands for: digits with an exponent, or a word for infinity or for no
number. -/
def read (text : String) : Option Binary64 :=
  let (negative, cs) := Text.takeSign (Text.dropAround Text.isNumberBlank text.toList)
  match cs.map Decimal.folded with
  | ['i', 'n', 'f'] => some (infinite negative)
  | ['i', 'n', 'f', 'i', 'n', 'i', 't', 'y'] => some (infinite negative)
  | ['n', 'a', 'n'] => some nan
  | _ =>
    if underscoresFit false cs then
      (Decimal.readScaled (cs.filter (· ≠ '_'))).map fun (coefficient, exponent) =>
        ofDecimal negative coefficient exponent
    else none

end Telemetry.Binary64
