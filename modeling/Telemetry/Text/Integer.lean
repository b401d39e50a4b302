import Telemetry.Text.Blank
import Telemetry.Text.Digit

namespace Telemetry.Text

/-- The blanks that may surround a number: within ASCII the usual six, beyond it all of them. -/
def isNumberBlank (c : Char) : Bool :=
  if c.toNat < 128 then c.toNat == 32 || (9 ≤ c.toNat && c.toNat ≤ 13) else isBlank c

/-- The values of a run of digits in which single underscores may stand between two digits.
`start` tells that an underscore is not allowed next. -/
def digitValues (value? : Char → Option Nat) (start : Bool) : List Char → Option (List Nat)
  | [] => if start then none else some []
  | c :: rest =>
    if c = '_' then
      if start then none else digitValues value? true rest
    else
      match value? c with
      | some value => (digitValues value? false rest).map (value :: ·)
      | none => none

/-- The most digits a decimal number may have. -/
def maxDigits : Nat := 4300

/-- The least number with more digits than that. -/
@[irreducible] def digitLimit : Nat := Nat.pow 10 maxDigits

/-- Splits a leading sign off; `true` is the minus. -/
def takeSign : List Char → Bool × List Char
  | '-' :: rest => (true, rest)
  | '+' :: rest => (false, rest)
  | rest => (false, rest)

/-- A whole number in decimal, with blanks around it, a sign, and underscores between digits. -/
def readInt (text : String) : Option Int :=
  let (negative, digits) := takeSign (dropAround isNumberBlank text.toList)
  match digitValues digit? true digits with
  | none => none
  | some values =>
    if values.length > maxDigits then none
    else
      let magnitude : Int := ofDigits values
      some (if negative then -magnitude else magnitude)

end Telemetry.Text
