import Assay.Calendar
import Assay.Number.Numeral
import Assay.Text.Quoted

/-! # Faults of YAML texts

Nearly everything that is wrong with a text makes it malformed. A few faults of scalars are
told apart, because they have a wording of their own.
-/

namespace Assay.Yaml

/-- Why a text gives no datum. -/
inductive Fault where
  | malformed
  /-- Collections are nested too deeply to be read. -/
  | tooDeep
  /-- An escape names a number above that of every character. -/
  | noCharacter
  /-- An escape names a number that does not fit a machine integer. -/
  | hugeCharacter
  /-- A text stands where an integer in some base is expected. -/
  | notInteger (base : Nat) (text : List Char)
  | tooManyDigits (refusal : Number.TooManyDigits)
  /-- A text stands where a number is expected. -/
  | notNumber (text : List Char)
  /-- Nothing stands where a number is expected. -/
  | noNumber
  /-- A text stands where a truth value is expected. -/
  | notTruth (text : List Char)
  /-- A text stands where a date is expected. -/
  | notDate
  | calendar (fault : CalendarFault)
  /-- The parts of a number in base 60 are too many. -/
  | hugeNumber
  deriving DecidableEq

/-- How much of a quoted text is shown in the wording of a fault. -/
def shownText (text : List Char) : String := String.ofList ((Text.quoted text).take 200)

/-- The wording of a fault, empty where there is none. -/
def Fault.message : Fault → String
  | malformed | tooDeep => ""
  | noCharacter => "chr() arg not in range(0x110000)"
  | hugeCharacter => "Python int too large to convert to C int"
  | notInteger base text => s!"invalid literal for int() with base {base}: {shownText text}"
  | tooManyDigits refusal => refusal.message
  | notNumber text =>
    s!"could not convert string to float: {String.ofList (Text.quoted text)}"
  | noNumber => "string index out of range"
  | notTruth text => String.ofList (Text.quoted text)
  | notDate => "'NoneType' object has no attribute 'groupdict'"
  | calendar fault => fault.message
  | hugeNumber => "int too large to convert to float"

end Assay.Yaml
