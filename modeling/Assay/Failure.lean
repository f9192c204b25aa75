import Assay.Pattern.Token

/-! # Failures of an evaluation

Most faults in an assertion or in an extraction rule are part of its result. The few that end an
evaluation as a whole are listed here: numerals and patterns that are too large to be read,
integers that are too long to be written, and steps of a query that make no sense for the value
that they meet.
-/

namespace Assay

/-- What ends an evaluation. -/
inductive Failure where
  | tooManyDigits (refusal : Number.TooManyDigits)
  | repetitionTooLarge
  | incompatibleAlphabets
  /-- The groups of a pattern stand too deep inside each other. -/
  | tooDeep
  /-- An integer has more digits than are written. -/
  | unwritable
  /-- An index counted from the end lies before the start of a list or of a string. -/
  | beforeStart (kind : String)
  /-- An index is applied to an object. -/
  | indexIntoObject (index : Int)
  /-- An index or a slice is applied to a scalar that has no length. -/
  | noLength (kind : String)
  | zeroStep
  /-- The parent of a node that has none is asked for its value. -/
  | noParent
  /-- The common matches of two queries are asked for. -/
  | intersection
  deriving DecidableEq

def Failure.message : Failure → String
  | tooManyDigits refusal => refusal.message
  | repetitionTooLarge => Pattern.Refusal.repetitionTooLarge.message
  | incompatibleAlphabets => Pattern.Refusal.incompatibleAlphabets.message
  | tooDeep => Pattern.Refusal.tooDeep.message
  | unwritable => Number.unwritableMessage
  | beforeStart kind => s!"{kind} index out of range"
  | indexIntoObject index => toString index
  | noLength kind => s!"object of type '{kind}' has no len()"
  | zeroStep => "slice step cannot be zero"
  | noParent => "'NoneType' object has no attribute 'value'"
  | intersection => ""

/-- The failure that a refused pattern is, unless it is only malformed. -/
def Failure.ofPattern? : Pattern.Refusal → Option Failure
  | .malformed => none
  | .repetitionTooLarge => some .repetitionTooLarge
  | .incompatibleAlphabets => some .incompatibleAlphabets
  | .tooManyDigits refusal => some (.tooManyDigits refusal)
  | .tooDeep => some .tooDeep

/-- An integer as it is written, unless it has too many digits. -/
def writtenInt (value : Int) : Except Failure String :=
  if Number.fitsLimit value then .ok (toString value) else .error .unwritable

end Assay
