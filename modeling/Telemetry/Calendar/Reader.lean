import Telemetry.Calendar.Moment
import Telemetry.Text.Blank

namespace Telemetry.Calendar

/-- The octets of a text, each as the character of that code. -/
def octets (text : String) : List Char :=
  text.toUTF8.toList.map fun byte => Char.ofNat byte.toNat

def digit? (c : Char) : Option Nat :=
  if '0' ≤ c ∧ c ≤ '9' then some (c.toNat - 48) else none

/-- Reads exactly `count` digits. -/
def takeNumber : (count total : Nat) → List Char → Option (Nat × List Char)
  | 0, total, rest => some (total, rest)
  | count + 1, total, c :: rest =>
    (digit? c).bind fun value => takeNumber count (total * 10 + value) rest
  | _ + 1, _, [] => none

/-- How many octets the day takes. Where a week date leaves it open whether digits belong to the day
or to the time, the reading with a time of whole digit pairs wins. -/
def dayLength (cs : List Char) : Option Nat :=
  let size := cs.length
  let at_ := fun index => cs.getD index '\x00'
  if size = 7 then some 7
  else if at_ 4 = '-' then
    if at_ 5 = 'W' then
      if 8 < size ∧ at_ 8 = '-' then
        if size = 9 then none
        else if 10 < size ∧ (digit? (at_ 10)).isSome then some 8
        else some 10
      else some 8
    else some 10
  else if at_ 4 = 'W' then
    let digits := ((cs.drop 7).takeWhile fun c => (digit? c).isSome).length
    if digits < 2 then some (7 + digits) else if digits % 2 = 1 then some 7 else some 8
  else some 8

/-- Skips a hyphen if the date is written with hyphens. -/
def skipHyphen (hyphens : Bool) : List Char → Option (List Char)
  | '-' :: rest => if hyphens then some rest else none
  | rest => if hyphens then none else some rest

/-- The rest of a week date after the `W`; without a day it is the Monday. -/
def readWeek (year : Nat) (hyphens : Bool) (cs : List Char) : Option Date :=
  (takeNumber 2 0 cs).bind fun (week, rest) =>
    if rest.isEmpty then Date.ofWeek? year week 1
    else
      (skipHyphen hyphens rest).bind fun rest =>
        match takeNumber 1 0 rest with
        | some (day, []) => Date.ofWeek? year week day
        | _ => none

def readDate (cs : List Char) : Option Date :=
  (takeNumber 4 0 cs).bind fun (year, rest) =>
    let hyphens := rest.head? = some '-'
    let rest := if hyphens then rest.drop 1 else rest
    match rest with
    | 'W' :: rest => readWeek year hyphens rest
    | rest =>
      (takeNumber 2 0 rest).bind fun (month, rest) =>
        (skipHyphen hyphens rest).bind fun rest =>
          match takeNumber 2 0 rest with
          | some (day, []) => some ⟨year, month, day⟩
          | _ => none

/-- A fraction of a second in microseconds; digits beyond the sixth are cut off. -/
def readFraction (cs : List Char) : Option (Nat × List Char) :=
  let count := min 6 cs.length
  (takeNumber count 0 cs).map fun (value, rest) =>
    (value * Nat.pow 10 (6 - count), rest.dropWhile fun c => (digit? c).isSome)

/-- Is there an octet left other than NUL? -/
def isLeft (cs : List Char) : Bool :=
  match cs with
  | c :: _ => c ≠ '\x00'
  | [] => false

/-- The parts of a time read so far, and whether something is left behind them. -/
structure ClockReading where
  parts : List Nat
  micro : Nat
  rest : Bool

namespace ClockReading

/-- The time of day; parts that were not given are zero. -/
def clock (reading : ClockReading) : Clock :=
  ⟨reading.parts.getD 0 0, reading.parts.getD 1 0, reading.parts.getD 2 0, reading.micro⟩

end ClockReading

/-- Reads up to `count` more two-digit parts and a fraction. The first separator decides whether
colons are used; a single character behind the last part is left over. -/
def readParts (parts : List Nat) (colons : Option Bool) :
    (count : Nat) → List Char → Option ClockReading
  | 0, cs => (readFraction cs).map fun (micro, rest) => ⟨parts, micro, isLeft rest⟩
  | count + 1, cs =>
    (takeNumber 2 0 cs).bind fun (value, rest) =>
      let parts := parts ++ [value]
      match rest with
      | [] => some ⟨parts, 0, false⟩
      | [c] => some ⟨parts, 0, isLeft [c]⟩
      | c :: after =>
        let colons := colons.getD (c = ':')
        if colons ∧ c = ':' then readParts parts (some colons) count after
        else if c = '.' ∨ c = ',' then
          (readFraction after).map fun (micro, rest) => ⟨parts, micro, isLeft rest⟩
        else if colons then none
        else readParts parts (some colons) count rest

/-- Does an offset from universal time begin here? -/
def startsOffset (c : Char) : Bool :=
  c = '+' || c = '-' || c = 'Z'

/-- The offset after its sign; whole seconds of zero are universal time itself. -/
def readOffset (negative : Bool) (cs : List Char) : Option Int :=
  (readParts [] none 3 cs).bind fun reading =>
    if reading.rest then none
    else
      let clock := reading.clock
      let seconds := (clock.hour * 60 + clock.minute) * 60 + clock.second
      if seconds = 0 then some 0
      else
        let total : Int := (seconds * 1000000 + clock.micro : Nat)
        some (if negative then -total else total)

/-- A time of day and the offset behind it. -/
def readTime (cs : List Char) : Option (Clock × Option Int) :=
  let (front, offset) := cs.span (!startsOffset ·)
  (readParts [] none 3 front).bind fun reading =>
    match offset with
    | [] => if reading.rest then none else some (reading.clock, none)
    | 'Z' :: rest => if isLeft rest then none else some (reading.clock, some 0)
    | sign :: rest => (readOffset (sign = '-') rest).map fun offset => (reading.clock, some offset)

/-- How many octets the character takes that begins with this octet. -/
def octetCount (c : Char) : Nat :=
  if c.toNat < 0x80 then 1
  else if c.toNat / 16 = 0xe then 3
  else if c.toNat / 16 = 0xf then 4
  else 2

/-- The parts of a moment before their ranges are checked. -/
def readMoment (cs : List Char) : Option Moment :=
  if cs.length < 7 then none
  else
    (dayLength cs).bind fun size =>
      (readDate (cs.take size)).bind fun date =>
        match cs.drop size with
        | [] => some ⟨date, ⟨0, 0, 0, 0⟩, none⟩
        | separator :: _ =>
          (readTime (cs.drop (size + octetCount separator))).map fun (clock, offset) =>
            ⟨date, clock, offset⟩

/-- The moment that a text stands for, blanks around it apart. -/
def Moment.read (text : String) : Option Moment :=
  (readMoment (octets (Text.strip text))).filter (·.isValid)

end Telemetry.Calendar
