import Telemetry.Decimal.Basic
import Telemetry.Text.Integer

namespace Telemetry.Decimal

/-- The largest exponent that a leading digit may have. -/
def maxAdjusted : Int := 999999999999999999

/-- The least exponent that a last digit may have. -/
def minExponent : Int := -1999999999999999997

/-- The value of an ASCII letter without regard to case. -/
def folded (c : Char) : Char :=
  if 'A' ≤ c ∧ c ≤ 'Z' then Char.ofNat (c.toNat + 32) else c

/-- Splits the leading digits off, as values. -/
def takeDigits : List Char → List Nat × List Char
  | [] => ([], [])
  | c :: rest =>
    match Text.digit? c with
    | some value => ((value :: (takeDigits rest).1), (takeDigits rest).2)
    | none => ([], c :: rest)

/-- A text that consists of digits alone, as values. -/
def allDigits? (cs : List Char) : Option (List Nat) :=
  match takeDigits cs with
  | (values, []) => some values
  | _ => none

/-- The exponent after the digits: nothing, or an `e` and a whole number. -/
def readExponent : List Char → Option Int
  | [] => some 0
  | c :: rest =>
    if folded c = 'e' then
      let (negative, digits) := Text.takeSign rest
      match allDigits? digits with
      | none | some [] => none
      | some values => some (if negative then -(Text.ofDigits values : Int) else Text.ofDigits values)
    else none

/-- Digits with at most one point in or around them and possibly an exponent, as a coefficient and
a power of ten. -/
def readScaled (cs : List Char) : Option (Nat × Int) :=
  let (whole, rest) := takeDigits cs
  let (places, rest) :=
    match rest with
    | '.' :: rest => takeDigits rest
    | rest => ([], rest)
  if whole.isEmpty && places.isEmpty then none
  else
    (readExponent rest).map fun power => (Text.ofDigits (whole ++ places), power - places.length)

/-- A finite number whose exponents are in range. -/
def readFinite (negative : Bool) (cs : List Char) : Option Decimal :=
  (readScaled cs).bind fun (coefficient, exponent) =>
    if adjusted coefficient exponent ≤ maxAdjusted ∧ minExponent ≤ exponent then
      some (finite negative coefficient exponent)
    else none

/-- What may follow the sign: a word for infinity, a word for no number, or digits. -/
def readUnsigned (negative : Bool) (cs : List Char) : Option Decimal :=
  match cs.map folded with
  | ['i', 'n', 'f'] => some (infinite negative)
  | ['i', 'n', 'f', 'i', 'n', 'i', 't', 'y'] => some (infinite negative)
  | 'n' :: 'a' :: 'n' :: digits =>
    (allDigits? digits).map fun values => nan negative false (Text.ofDigits values)
  | 's' :: 'n' :: 'a' :: 'n' :: digits =>
    (allDigits? digits).map fun values => nan negative true (Text.ofDigits values)
  | _ => readFinite negative cs

def read (text : String) : Option Decimal :=
  let (negative, cs) :=
    Text.takeSign ((Text.dropAround Text.isBlank text.toList).filter (· ≠ '_'))
  readUnsigned negative cs

end Telemetry.Decimal
