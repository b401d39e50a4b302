import Telemetry.Calendar.Date
import Telemetry.Text.Digit

namespace Telemetry.Calendar

structure Clock where
  hour : Nat
  minute : Nat
  second : Nat
  micro : Nat
deriving DecidableEq, Repr

namespace Clock

def isValid (clock : Clock) : Bool :=
  clock.hour < 24 && clock.minute < 60 && clock.second < 60 && clock.micro < 1000000

def micros (clock : Clock) : Nat :=
  ((clock.hour * 60 + clock.minute) * 60 + clock.second) * 1000000 + clock.micro

end Clock

/-- A moment; `offset` is how many microseconds local time is ahead of universal time. -/
structure Moment where
  date : Date
  clock : Clock
  offset : Option Int
deriving DecidableEq, Repr

def dayMicros : Nat := 86400000000

/-- Digits filled with zeros up to a width. -/
def padded (width n : Nat) : List Char :=
  let digits := Text.decimalDigits n
  List.replicate (width - digits.length) '0' ++ digits

/-- The text of a day: year, month and day with hyphens. -/
def Date.chars (date : Date) : List Char :=
  padded 4 date.year ++ '-' :: padded 2 date.month ++ '-' :: padded 2 date.day

def Date.toText (date : Date) : String :=
  String.ofList date.chars

/-- Hours, minutes and seconds with colons; microseconds only if there are any. -/
def Clock.chars (clock : Clock) : List Char :=
  padded 2 clock.hour ++ ':' :: padded 2 clock.minute ++ ':' :: padded 2 clock.second ++
    if clock.micro = 0 then [] else '.' :: padded 6 clock.micro

/-- The text of an offset: hours and minutes, then seconds and microseconds as far as needed. -/
def offsetChars (offset : Int) : List Char :=
  let total := offset.natAbs
  let micro := total % 1000000
  let seconds := total / 1000000
  let second := seconds % 60
  let minutes := seconds / 60
  let tail :=
    if micro ≠ 0 then ':' :: padded 2 second ++ '.' :: padded 6 micro
    else if second ≠ 0 then ':' :: padded 2 second
    else []
  (if offset < 0 then '-' else '+') :: padded 2 (minutes / 60) ++ ':' :: padded 2 (minutes % 60) ++ tail

namespace Moment

/-- Is every part in its range, the offset less than a day? -/
def isValid (moment : Moment) : Bool :=
  moment.date.isValid && moment.clock.isValid &&
    match moment.offset with
    | some offset => offset.natAbs < dayMicros
    | none => true

/-- The text of a moment with the given character between day and time. -/
def textWith (separator : Char) (moment : Moment) : String :=
  String.ofList (moment.date.chars ++ separator :: moment.clock.chars ++
    match moment.offset with
    | some offset => offsetChars offset
    | none => [])

/-- The text of a moment, with a `T` before the time. -/
def toText (moment : Moment) : String :=
  moment.textWith 'T'

/-- The microseconds from the beginning of the year 1 to the moment in its own time. -/
def localMicros (moment : Moment) : Int :=
  ((moment.date.ordinal - 1) * dayMicros + moment.clock.micros : Nat)

end Moment

end Telemetry.Calendar
