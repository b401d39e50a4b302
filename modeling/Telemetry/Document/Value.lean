import Telemetry.Binary64.Reader
import Telemetry.Document
import Telemetry.Document.Node
import Telemetry.Text.Case

namespace Telemetry.Document

def digitIn? (base : Nat) (c : Char) : Option Nat :=
  ((Text.digit? c).or (Text.hexValue? c)).filter (· < base)

/-- Drops the letter that marks a number system, with the zero before it. -/
def withoutMark (base : Nat) (cs : List Char) : List Char :=
  match cs with
  | '0' :: c :: rest =>
    let mark := Decimal.folded c
    if (base = 2 ∧ mark = 'b') ∨ (base = 8 ∧ mark = 'o') ∨ (base = 16 ∧ mark = 'x') then rest else cs
  | _ => cs

/-- A whole number in a number system, with blanks and a sign. -/
def numberIn? (base : Nat) (cs : List Char) : Option Int :=
  let (negative, cs) := Text.takeSign (Text.dropAround Text.isNumberBlank cs)
  let digits := withoutMark base cs
  if digits.isEmpty then none
  else
    (digits.mapM (digitIn? base)).map fun values =>
      Binary64.signed negative (values.foldl (fun total value => total * base + value) 0)

/-- A number in parts of sixty, the last one first. -/
def sixties : List Int → Int
  | [] => 0
  | part :: parts => part + 60 * sixties parts

/-- The whole number behind the sign of a text. -/
def wholeNumber (cs : List Char) : Except Fault Int :=
  let orBad := fun (n : Option Int) => match n with
    | some n => .ok n
    | none => .error .badValue
  match cs with
  | [] => .error .emptyNumber
  | ['0'] => .ok 0
  | '0' :: 'b' :: digits => orBad (numberIn? 2 digits)
  | '0' :: 'x' :: digits => orBad (numberIn? 16 digits)
  | '0' :: _ => orBad (numberIn? 8 cs)
  | _ =>
    if ':' ∈ cs then
      orBad ((((colonParts cs).mapM fun part => Text.readInt (String.ofList part))).map fun parts =>
        sixties parts.reverse)
    else orBad (Text.readInt (String.ofList cs))

/-- A text without underscores, and whether a minus stands in front of it, which must not be empty. -/
def splitSign (cs : List Char) : Except Fault (Bool × List Char) :=
  match cs.filter (· ≠ '_') with
  | [] => .error .emptyNumber
  | '-' :: rest => .ok (true, rest)
  | '+' :: rest => .ok (false, rest)
  | rest => .ok (false, rest)

def integerOf (text : String) : Except Fault Int := do
  let (negative, cs) ← splitSign text.toList
  let n ← wholeNumber cs
  pure (if negative then -n else n)

/-- A floating-point number in parts of sixty, the last one first; `unit` is what that one counts. -/
def realSixties (total : Binary64) (unit : Nat) : List Binary64 → Except Fault Binary64
  | [] => .ok total
  | part :: parts =>
    match Binary64.ofInt? unit with
    | none => .error .hugeUnit
    | some factor => realSixties (total.add (part.mul factor)) (unit * 60) parts

/-- The floating-point number behind the sign of a text. -/
def realNumber (cs : List Char) : Except Fault Binary64 :=
  if cs = ['.', 'i', 'n', 'f'] then .ok (.infinite false)
  else if cs = ['.', 'n', 'a', 'n'] then .ok .nan
  else
    let numbers := (if ':' ∈ cs then colonParts cs else [cs]).mapM fun part =>
      Binary64.read (String.ofList part)
    match numbers with
    | none => .error .badValue
    | some [number] => .ok number
    | some parts => realSixties .zero 1 parts.reverse

/-- The floating-point number that a text stands for. -/
def realOf (text : String) : Except Fault Binary64 := do
  let (negative, cs) ← splitSign (Text.lower text).toList
  let x ← realNumber cs
  pure (if negative then x.neg else x)

/-- The words for truth values, in lower case. -/
def truthWords : List (String × Bool) := [
  ("yes", true), ("no", false), ("true", true), ("false", false), ("on", true), ("off", false)]

def numberOf (digits : List Char) : Nat :=
  digits.foldl (fun total c => total * 10 + (c.toNat - 48)) 0

/-- The microseconds that the digits behind a point stand for; more than six do not count. -/
def microsOf (digits : List Char) : Nat :=
  let digits := digits.take 6
  numberOf (digits ++ List.replicate (6 - digits.length) '0')

/-- The microseconds of an offset. -/
def offsetOf (negative : Bool) (hours minutes : List Char) : Int :=
  Binary64.signed negative ((numberOf hours * 60 + numberOf minutes) * 60000000)

/-- The day or the moment that the parts of a timestamp stand for. -/
def TimestampParts.value (parts : TimestampParts) : Except Fault Scalar :=
  let date : Calendar.Date := ⟨numberOf parts.year, numberOf parts.month, numberOf parts.day⟩
  match parts.clock with
  | none => if date.isValid then .ok (.date date) else .error .badValue
  | some (hour, minute, second, fraction) =>
    let moment : Calendar.Moment := {
      date
      clock := ⟨numberOf hour, numberOf minute, numberOf second, microsOf fraction⟩
      offset := parts.offset.map fun (negative, hours, minutes) => offsetOf negative hours minutes }
    if moment.isValid then .ok (.moment moment) else .error .badValue

/-- The day or the moment that a text stands for. A line feed at its end does not count. -/
def timestampOf (text : String) : Except Fault Scalar :=
  let cs := text.toList
  let cs := if cs.getLast? = some '\n' then cs.dropLast else cs
  match timestampParts? cs with
  | some parts => parts.value
  | none => .error .noTimestamp

def digit64? (c : Char) : Option Nat :=
  if 'A' ≤ c ∧ c ≤ 'Z' then some (c.toNat - 65)
  else if 'a' ≤ c ∧ c ≤ 'z' then some (c.toNat - 71)
  else if '0' ≤ c ∧ c ≤ '9' then some (c.toNat + 4)
  else if c = '+' then some 62
  else if c = '/' then some 63
  else none

/-- Octets from base-64 digits. `place` is the place of the next digit in its group of four, `left`
what the digit before leaves over, and `pads` how many padding signs came just before. Padding ends
the text once it completes a group; all else is passed over. -/
def octetsFrom (place left pads : Nat) : List Char → Option (List UInt8)
  | [] => if place = 0 then some [] else none
  | '=' :: rest =>
    if 2 ≤ place then
      if 4 ≤ place + pads + 1 then some [] else octetsFrom place left (pads + 1) rest
    else octetsFrom place left pads rest
  | c :: rest =>
    match digit64? c with
    | none => octetsFrom place left pads rest
    | some digit =>
      if place = 0 then octetsFrom 1 digit 0 rest
      else if place = 1 then
        (octetsFrom 2 (digit % 16) 0 rest).map (UInt8.ofNat (left * 4 + digit / 16) :: ·)
      else if place = 2 then
        (octetsFrom 3 (digit % 4) 0 rest).map (UInt8.ofNat (left * 16 + digit / 4) :: ·)
      else (octetsFrom 0 0 0 rest).map (UInt8.ofNat (left * 64 + digit) :: ·)

/-- The octets that a text of base-64 digits stands for. -/
def octetsOf (text : String) : Except Fault (List UInt8) :=
  if text.toList.any (128 ≤ ·.toNat) then .error .malformed
  else
    match octetsFrom 0 0 0 text.toList with
    | some octets => .ok octets
    | none => .error .malformed

/-- The value that a text stands for as a plain value of a type. -/
def scalarOf (tag : Tag) (text : String) : Except Fault Scalar :=
  match tag with
  | .null => .ok .null
  | .truth =>
    match truthWords.lookup (Text.lower text) with
    | some value => .ok (.truth value)
    | none => .error .unknownWord
  | .integer => (integerOf text).map .integer
  | .real => (realOf text).map .real
  | .octets => (octetsOf text).map .octets
  | .timestamp => timestampOf text
  | .text => .ok (.text text)
  | _ => .error .malformed

end Telemetry.Document
