import Assay.Text.Quoted

/-! # Verdicts

The outcome of an assertion, how it is shown, and the count of outcomes.
-/

namespace Assay

/-- The outcome of an assertion: whether it passed, what was observed, and a sentence. -/
structure Verdict where
  id : String
  passed : Bool
  actual : String
  message : String
  deriving DecidableEq

/-- The greatest length at which an observed value is shown whole. -/
def shownLength : Nat := 100

/-- An observed value as it is shown: quoted, and cut when it is long. -/
def shownValue (value : String) : List Char :=
  let shown := Text.quoted value.toList
  if shownLength < shown.length then shown.take (shownLength - 3) ++ ['.', '.', '.'] else shown

def Verdict.text (verdict : Verdict) : String :=
  if verdict.passed then
    s!"✅ PASS [{verdict.id}]: {verdict.message}"
  else
    s!"❌ FAIL [{verdict.id}]: {verdict.message}\n   Actual: " ++
      String.ofList (shownValue verdict.actual)

/-- How many verdicts passed and how many failed. -/
structure Tally where
  passed : Nat
  failed : Nat
  total : Nat
  deriving DecidableEq

def Tally.allPassed (tally : Tally) : Bool := tally.failed = 0

def Tally.ofVerdicts (verdicts : List Verdict) : Tally where
  passed := verdicts.countP Verdict.passed
  failed := verdicts.countP fun verdict => !verdict.passed
  total := verdicts.length

end Assay
