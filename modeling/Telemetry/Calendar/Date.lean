namespace Telemetry.Calendar

/-- A day by year, month and day of the month, counted from one. -/
structure Date where
  year : Nat
  month : Nat
  day : Nat
deriving DecidableEq, Repr

def isLeap (year : Nat) : Bool :=
  year % 4 == 0 && (year % 100 != 0 || year % 400 == 0)

def monthLengths (year : Nat) : List Nat :=
  [31, if isLeap year then 29 else 28, 31, 30, 31, 30, 31, 31, 30, 31, 30, 31]

def yearLength (year : Nat) : Nat :=
  if isLeap year then 366 else 365

namespace Date

/-- Is there such a day in the years 1 to 9999? -/
def isValid (date : Date) : Bool :=
  1 ≤ date.year && date.year ≤ 9999 && 1 ≤ date.month && date.month ≤ 12 && 1 ≤ date.day &&
    date.day ≤ (monthLengths date.year).getD (date.month - 1) 0

end Date

/-- The days before the first of January of a year, counted from the year 1. -/
def daysBefore (year : Nat) : Nat :=
  let past := year - 1
  past * 365 + past / 4 - past / 100 + past / 400

/-- The number of a day, counted from the first of January of the year 1, which is one. -/
def Date.ordinal (date : Date) : Nat :=
  let lengths := (monthLengths date.year).take (date.month - 1)
  daysBefore date.year + lengths.foldl Nat.add 0 + date.day

/-- The weekday of the first of January; Monday is zero. -/
def firstWeekday (year : Nat) : Nat :=
  daysBefore year % 7

/-- The number of ISO weeks of a year: 53 if it starts on a Thursday, or on a Wednesday and is a leap
year. -/
def weekCount (year : Nat) : Nat :=
  if firstWeekday year = 3 ∨ (firstWeekday year = 2 ∧ isLeap year) then 53 else 52

/-- The month and day after `days` days of a year whose remaining months are given. -/
def monthDay (month days : Nat) : List Nat → Nat × Nat
  | [] => (month, days + 1)
  | length :: lengths =>
    if days < length then (month, days + 1) else monthDay (month + 1) (days - length) lengths

/-- The day that lies `days` days after the first of January, in the year itself or a neighbour. -/
def Date.ofDayOfYear (year : Nat) (days : Int) : Date :=
  if days < 0 then ⟨year - 1, 12, (32 + days).toNat⟩
  else if days < yearLength year then
    let (month, day) := monthDay 1 days.toNat (monthLengths year)
    ⟨year, month, day⟩
  else ⟨year + 1, 1, days.toNat - yearLength year + 1⟩

/-- The day of an ISO week, Monday being day one; week one is the one with the first Thursday. -/
def Date.ofWeek? (year week day : Nat) : Option Date :=
  if year = 0 ∨ week = 0 ∨ weekCount year < week ∨ day = 0 ∨ 7 < day then none
  else
    let start : Int := -(firstWeekday year : Int) + if 3 < firstWeekday year then 7 else 0
    some (Date.ofDayOfYear year (start + (week - 1 : Nat) * 7 + (day - 1 : Nat)))

end Telemetry.Calendar
