import Assay.Datum.Json

/-! # Data as they are shown

A datum in a diagnostic: texts are quoted, collections stand in brackets, and a collection that
is met again inside itself is shown by three dots.
-/

namespace Assay.Datum

def quoteByte (mark : Char) (byte : UInt8) : List Char :=
  let c := Char.ofNat byte.toNat
  if c.toNat < 0x80 then Text.quoteChar mark c else Text.escapeByNumber c

/-- Bytes as they are shown: like a text, behind a letter. -/
def quotedBytes (bytes : List UInt8) : List Char :=
  let mark := Text.quoteMark (bytes.map fun byte => Char.ofNat byte.toNat)
  'b' :: mark :: bytes.flatMap (quoteByte mark) ++ [mark]

/-- An offset from universal time as it is shown. -/
def zoneText (minutes : Int) : List Char :=
  if minutes = 0 then "datetime.timezone.utc".toList
  else "datetime.timezone(".toList ++ durationText minutes ++ [')']

def dateText (date : Date) : List Char :=
  "datetime.date(".toList ++ arguments [date.year, date.month, date.day] ++ [')']

/-- The fields of a time of day, without trailing seconds and microseconds that are zero. -/
def clockFields (clock : Clock) : List Nat :=
  if clock.microsecond ≠ 0 then [clock.hour, clock.minute, clock.second, clock.microsecond]
  else if clock.second ≠ 0 then [clock.hour, clock.minute, clock.second]
  else [clock.hour, clock.minute]

def momentText (moment : Moment) : List Char :=
  let date := moment.date
  "datetime.datetime(".toList ++
    arguments ([date.year, date.month, date.day] ++ clockFields moment.clock) ++
    (moment.offset.map fun minutes => ", tzinfo=".toList ++ zoneText minutes).getD [] ++ [')']

mutual

def shownIn (labels : List Nat) : Datum → List Char
  | null => "None".toList
  | bool value => if value then "True".toList else "False".toList
  | int value => Number.intText value
  | double value => value.text
  | text value => Text.quoted value.toList
  | bytes value => quotedBytes value
  | date value => dateText value
  | moment value => momentText value
  | set members =>
    if members.isEmpty then "set()".toList
    else '\x7b' :: listed (shownItems labels members) ++ ['\x7d']
  | pair left right => '(' :: listed [shownIn labels left, shownIn labels right] ++ [')']
  | list items => '[' :: listed (shownItems labels items) ++ [']']
  | map entries => '\x7b' :: listed (shownEntries labels entries) ++ ['\x7d']
  | knot label body =>
    if labels.contains label then
      if body.items?.isSome then "[...]".toList else "\x7b...\x7d".toList
    else shownIn (label :: labels) body

def shownItems (labels : List Nat) : List Datum → List (List Char)
  | [] => []
  | item :: rest => shownIn labels item :: shownItems labels rest

def shownEntries (labels : List Nat) : List (Datum × Datum) → List (List Char)
  | [] => []
  | (key, value) :: rest =>
    (shownIn labels key ++ ':' :: ' ' :: shownIn labels value) :: shownEntries labels rest

end

def shown (datum : Datum) : String := String.ofList (datum.shownIn [])

/-- A datum as it is named in a sentence: a text, a date and a moment stand there plainly. -/
def named : Datum → String
  | text value => value
  | date value => String.ofList value.text
  | moment value => String.ofList (value.text ' ')
  | other => other.shown

mutual

/-- Whether an integer in a datum has too many digits to be written. -/
def isTooLong : Datum → Bool
  | int value => !Number.fitsLimit value
  | set members => anyTooLong members
  | pair left right => left.isTooLong || right.isTooLong
  | list items => anyTooLong items
  | map entries => anyEntryTooLong entries
  | knot _ body => body.isTooLong
  | _ => false

/-- Whether one of several data holds an integer that is too long. -/
def anyTooLong : List Datum → Bool
  | [] => false
  | item :: rest => item.isTooLong || anyTooLong rest

/-- Whether one of several entries holds an integer that is too long. -/
def anyEntryTooLong : List (Datum × Datum) → Bool
  | [] => false
  | (key, value) :: rest => key.isTooLong || value.isTooLong || anyEntryTooLong rest

end

def keysAreWritable (entries : List (Datum × Datum)) : Bool :=
  entries.all fun entry => !entry.1.isTooLong

end Assay.Datum
