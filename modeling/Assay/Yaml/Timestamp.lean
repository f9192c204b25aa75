import Assay.Calendar
import Assay.Number.Numeral
import Assay.Yaml.Character

/-! # Timestamps

A date, with a time of day and an offset from universal time behind it if there are any. The
forms are read first, and what they say is looked into afterwards.
-/

namespace Assay.Yaml

/-- An offset from universal time: a sign, hours and minutes. -/
structure OffsetForm where
  negative : Bool
  hours : Nat
  minutes : Nat

/-- A time of day as it is written. -/
structure ClockForm where
  hour : Nat
  minute : Nat
  second : Nat
  fraction : List Char
  offset : Option OffsetForm

/-- A timestamp as it is written. -/
structure TimestampForm where
  year : Nat
  month : Nat
  day : Nat
  /-- Whether month and day have two digits each. -/
  wide : Bool
  clock : Option ClockForm

/-- Digits at the start of a text: as many as there are, up to some number. -/
def upTo (most : Nat) (text : List Char) : Option (List Char × List Char) :=
  let digits := (text.take most).takeWhile Char.isDigit
  if digits.isEmpty then none else some (digits, text.drop digits.length)

/-- A given number of digits at the start of a text. -/
def exactly (count : Nat) (text : List Char) : Option (Nat × List Char) :=
  (upTo count text).bind fun (digits, rest) =>
    if digits.length = count then some (Number.ofDigits digits, rest) else none

/-- A text behind a character. -/
def behind? (c : Char) : List Char → Option (List Char)
  | first :: rest => if first = c then some rest else none
  | [] => none

def offsetForm? (text : List Char) : Option OffsetForm :=
  match text with
  | ['Z'] => some ⟨false, 0, 0⟩
  | sign :: rest =>
    if sign ≠ '+' && sign ≠ '-' then none
    else match upTo 2 rest with
      | some (hours, []) => some ⟨sign = '-', Number.ofDigits hours, 0⟩
      | some (hours, ':' :: rest) => match exactly 2 rest with
        | some (minutes, []) => some ⟨sign = '-', Number.ofDigits hours, minutes⟩
        | _ => none
      | _ => none
  | [] => none

/-- A time of day, which ends the text. -/
def clockForm? (text : List Char) : Option ClockForm := do
  let (hour, rest) ← upTo 2 text
  let (minute, rest) ← exactly 2 (← behind? ':' rest)
  let (second, rest) ← exactly 2 (← behind? ':' rest)
  let (fraction, rest) := match rest with
    | '.' :: rest => (rest.takeWhile Char.isDigit, rest.dropWhile Char.isDigit)
    | _ => ([], rest)
  let offset ← if rest.isEmpty then some none
    else (offsetForm? (rest.dropWhile isWhite)).map some
  return ⟨Number.ofDigits hour, minute, second, fraction, offset⟩

/-- A timestamp. Between date and time of day stands a letter or white space. -/
def timestampForm? (text : List Char) : Option TimestampForm := do
  let (year, rest) ← exactly 4 text
  let (month, rest) ← upTo 2 (← behind? '-' rest)
  let (day, rest) ← upTo 2 (← behind? '-' rest)
  let clock ← match rest with
    | [] => some none
    | mark :: others =>
      if mark = 'T' || mark = 't' then (clockForm? others).map some
      else if isWhite mark then (clockForm? (others.dropWhile isWhite)).map some
      else none
  return ⟨year, Number.ofDigits month, Number.ofDigits day,
    month.length = 2 && day.length = 2, clock⟩

/-- Whether a text has the form of a timestamp that needs no tag. -/
def isTimestampForm (text : List Char) : Bool :=
  (timestampForm? text).any fun form => form.wide || form.clock.isSome

/-- The microseconds of a fraction of a second, of which six digits count. -/
def microsecondsOf (fraction : List Char) : Nat :=
  let digits := fraction.take 6
  Number.ofDigits (digits ++ List.replicate (6 - digits.length) '0')

/-- An offset in minutes, which is less than a day. -/
def OffsetForm.minutesOf (form : OffsetForm) : Except CalendarFault Int :=
  let size : Int := form.hours * 60 + form.minutes
  let minutes := if form.negative then -size else size
  if size < 1440 then .ok minutes else .error (.offset minutes)

def TimestampForm.read (form : TimestampForm) : Except CalendarFault (Date ⊕ Moment) := do
  match form.clock with
  | none => return .inl (← Date.ofFields form.year form.month form.day)
  | some clock =>
    let offset ← match clock.offset with
      | none => pure none
      | some offset => some <$> offset.minutesOf
    let date ← Date.ofFields form.year form.month form.day
    let clock ←
      Clock.ofFields clock.hour clock.minute clock.second (microsecondsOf clock.fraction)
    return .inr ⟨date, clock, offset⟩

end Assay.Yaml
