import Assay.Number.Layout

/-! # Dates and times

The proleptic Gregorian calendar from year 1 to year 9999. A moment is a date and a time of day
to the microsecond, with or without an offset from universal time in minutes. Days are numbered
from the first of January of year 1, which has number 1.
-/

namespace Assay

open Number (digitsOf)

structure Date where
  year : Nat
  month : Nat
  day : Nat
  deriving DecidableEq, Inhabited

/-- A time of day. -/
structure Clock where
  hour : Nat
  minute : Nat
  second : Nat
  microsecond : Nat
  deriving DecidableEq, Inhabited

/-- A date with a time of day, and an offset from universal time in minutes if there is one. -/
structure Moment where
  date : Date
  clock : Clock
  offset : Option Int
  deriving DecidableEq, Inhabited

/-- Whether a year has a 29th of February. -/
def isLeapYear (year : Nat) : Bool :=
  year % 4 = 0 && (year % 100 ≠ 0 || year % 400 = 0)

def daysInMonth (year month : Nat) : Nat :=
  match month with
  | 2 => if isLeapYear year then 29 else 28
  | 4 | 6 | 9 | 11 => 30
  | _ => 31

/-- What may be wrong with the fields of a date or of a time. -/
inductive CalendarFault where
  | year (year : Nat)
  | month
  | day
  | hour
  | minute
  | second
  /-- An offset of a day or more, in minutes. -/
  | offset (minutes : Int)
  deriving DecidableEq

def Date.ofFields (year month day : Nat) : Except CalendarFault Date :=
  if year < 1 || 9999 < year then .error (.year year)
  else if month < 1 || 12 < month then .error .month
  else if day < 1 || daysInMonth year month < day then .error .day
  else .ok ⟨year, month, day⟩

def Clock.ofFields (hour minute second microsecond : Nat) : Except CalendarFault Clock :=
  if 23 < hour then .error .hour
  else if 59 < minute then .error .minute
  else if 59 < second then .error .second
  else .ok ⟨hour, minute, second, microsecond⟩

def daysBeforeYear (year : Nat) : Nat :=
  let before := year - 1
  365 * before + before / 4 - before / 100 + before / 400

def Date.dayNumber (date : Date) : Nat :=
  daysBeforeYear date.year + date.day +
    (List.range (date.month - 1)).foldl
      (fun days month => days + daysInMonth date.year (month + 1)) 0

/-- The month and the day of month of a day counted from zero within the months from `month`
on. -/
def monthAndDay (year : Nat) (day : Nat) : List Nat → Nat × Nat
  | [] => (12, day + 1)
  | month :: later =>
    if day < daysInMonth year month then (month, day + 1)
    else monthAndDay year (day - daysInMonth year month) later

/-- The date of the day with a given number: whole cycles of 400, 100, 4 years and of one year
are taken off in turn, where the last of the longer cycles has a day more. -/
def Date.ofDayNumber (number : Nat) : Date :=
  let inCycle := (number - 1) % 146097
  let centuries := min (inCycle / 36524) 3
  let inCentury := inCycle - centuries * 36524
  let inFour := inCentury % 1461
  let single := min (inFour / 365) 3
  let year := 400 * ((number - 1) / 146097) + 100 * centuries + 4 * (inCentury / 1461) + single + 1
  let (month, day) := monthAndDay year (inFour - single * 365) ((List.range 12).map (· + 1))
  ⟨year, month, day⟩

/-- The number of the first of January 1970. -/
def epochDay : Nat := 719163

def microsecondsPerDay : Nat := 86400000000

/-- The moment of universal time that is some microseconds after the start of 1970. -/
def Moment.ofMicroseconds (microseconds : Int) : Moment :=
  let inDay := (microseconds % microsecondsPerDay).toNat
  let seconds := inDay / 1000000
  { date := Date.ofDayNumber (epochDay + microseconds / microsecondsPerDay).toNat
    clock := ⟨seconds / 3600, seconds / 60 % 60, seconds % 60, inDay % 1000000⟩
    offset := some 0 }

/-- The microseconds of a time of day since midnight. -/
def Clock.microseconds (clock : Clock) : Nat :=
  ((clock.hour * 60 + clock.minute) * 60 + clock.second) * 1000000 + clock.microsecond

/-- The microseconds of a moment since the start of year 1, in universal time if the moment has
an offset. -/
def Moment.microseconds (moment : Moment) : Int :=
  moment.date.dayNumber * microsecondsPerDay + moment.clock.microseconds
    - moment.offset.getD 0 * 60000000

/-- Whether two moments are the same: moments with offsets are compared in universal time, and
a moment without one differs from every moment with one. -/
def Moment.eqv (left right : Moment) : Bool :=
  left.offset.isSome = right.offset.isSome && left.microseconds = right.microseconds

def padded (width number : Nat) : List Char :=
  let digits := digitsOf number
  List.replicate (width - digits.length) '0' ++ digits

def Date.text (date : Date) : List Char :=
  padded 4 date.year ++ '-' :: padded 2 date.month ++ '-' :: padded 2 date.day

/-- A time of day, with six places behind the point unless these are all zero. -/
def Clock.text (clock : Clock) : List Char :=
  padded 2 clock.hour ++ ':' :: padded 2 clock.minute ++ ':' :: padded 2 clock.second ++
    if clock.microsecond = 0 then [] else '.' :: padded 6 clock.microsecond

def offsetText (minutes : Int) : List Char :=
  (if minutes < 0 then '-' else '+') ::
    padded 2 (minutes.natAbs / 60) ++ ':' :: padded 2 (minutes.natAbs % 60)

/-- A moment, with a given character between date and time. -/
def Moment.text (separator : Char) (moment : Moment) : List Char :=
  moment.date.text ++ separator :: moment.clock.text ++ (moment.offset.map offsetText).getD []

def listed (texts : List (List Char)) : List Char := ", ".toList.intercalate texts

def arguments (numbers : List Nat) : List Char := listed (numbers.map Number.digitsOf)

/-- A duration in minutes as it is shown, in days and seconds. -/
def durationText (minutes : Int) : List Char :=
  let days := Int.fdiv minutes 1440
  let seconds := Int.fmod minutes 1440 * 60
  let parts :=
    (if days = 0 then [] else ["days=".toList ++ Number.intText days]) ++
      (if seconds = 0 then [] else ["seconds=".toList ++ Number.intText seconds])
  "datetime.timedelta(".toList ++ (if parts.isEmpty then ['0'] else listed parts) ++ [')']

/-- The wording of what is wrong with a date or a time. -/
def CalendarFault.message : CalendarFault → String
  | year number => s!"year {number} is out of range"
  | month => "month must be in 1..12"
  | day => "day is out of range for month"
  | hour => "hour must be in 0..23"
  | minute => "minute must be in 0..59"
  | second => "second must be in 0..59"
  | offset minutes =>
    "offset must be a timedelta strictly between -timedelta(hours=24) and " ++
      s!"timedelta(hours=24), not {String.ofList (durationText minutes)}."

example : (Date.mk 1970 1 1).dayNumber = epochDay := by decide
example : Date.ofDayNumber 738886 = ⟨2024, 1, 1⟩ := by decide
example : Date.ofDayNumber (daysBeforeYear 2024 + 60) = ⟨2024, 2, 29⟩ := by decide

end Assay
