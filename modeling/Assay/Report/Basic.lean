import Assay.Assertion.Verdict
import Assay.Number.Rounding
import Assay.Suite.Schema

/-! # Run reports

The record of a suite that is run against one response. Times are microseconds since the start
of 1970. A report grows step by step; the counts, the duration and the final status are those of
the last time it was finished.
-/

namespace Assay

open Number (Double)

/-- How far a run has come. -/
inductive RunStatus where
  | pending
  | running
  | passed
  | failed
  deriving DecidableEq

def RunStatus.word : RunStatus → String
  | pending => "pending"
  | running => "running"
  | passed => "passed"
  | failed => "failed"

/-- The check that was made, with its outcome once there is one. -/
structure Entry where
  assertionId : String
  typeTag : String
  operatorTag : String
  property : String := ""
  expected : String := ""
  enabled : Option Bool := some true
  passed : Option Bool := none
  actual : String := ""
  message : String := ""
  deriving DecidableEq

def Entry.isEnabled (entry : Entry) : Bool := entry.enabled = some true

/-- Whether the check of an entry was to be made and passed. -/
def Entry.hasPassed (entry : Entry) : Bool := entry.isEnabled && entry.passed = some true

def Entry.hasFailed (entry : Entry) : Bool := entry.passed = some false

def Entry.ofVerdict (assertion : Assertion) (verdict : Verdict) : Entry where
  assertionId := assertion.id
  typeTag := assertion.typeTag
  operatorTag := assertion.operatorTag
  property := assertion.property
  expected := assertion.expected
  enabled := assertion.enabled
  passed := some verdict.passed
  actual := verdict.actual
  message := verdict.message

/-- How many entries there are of each kind. -/
structure Counts where
  total : Nat := 0
  passed : Nat := 0
  failed : Nat := 0
  skipped : Nat := 0
  deriving DecidableEq

def Counts.ofEntries (entries : List Entry) : Counts where
  total := entries.length
  passed := entries.countP Entry.hasPassed
  failed := entries.countP Entry.hasFailed
  skipped := entries.countP fun entry => !entry.isEnabled

/-- The record of a run. -/
structure Report where
  runId : String
  suiteName : String
  suiteVersion : Int
  startedAt : Int
  endedAt : Option Int := none
  /-- The time between start and end in milliseconds. -/
  duration : Option Double := none
  /-- Status code and time of the response. -/
  response : Option (Int × Int) := none
  status : RunStatus := .pending
  entries : List Entry := []
  extracted : Table String String := []
  counts : Counts := {}

/-- A span of microseconds in milliseconds: first rounded to seconds, then multiplied. -/
def milliseconds (microseconds : Int) : Double :=
  (Double.ofSigned false microseconds 1000000).mul (Double.ofInt 1000)

/-- A step by which a report grows. -/
inductive Step where
  | start
  | finish
  | response (seen : Response)
  | verdicts (assertions : List Assertion) (verdicts : List Verdict)
  | entry (entry : Entry)
  | bindings (table : Table String String)

def Step.asksTime : Step → Bool
  | start | finish => true
  | _ => false

namespace Report

/-- The id of a run: the one that is wanted, or a fresh one if that is empty. -/
def chosenId (wanted fresh : String) : String := if wanted.isEmpty then fresh else wanted

def ofSuite (suite : Suite) (runId : String) (now : Int) : Report where
  runId
  suiteName := suite.name
  suiteVersion := suite.version
  startedAt := now

def start (report : Report) (now : Int) : Report :=
  { report with status := .running, startedAt := now }

/-- The report of a run that has come to its end. -/
def finish (report : Report) (now : Int) : Report :=
  let counts := Counts.ofEntries report.entries
  { report with
    endedAt := some now
    duration := some (milliseconds (now - report.startedAt))
    counts
    status := if 0 < counts.failed then .failed else .passed }

def withResponse (report : Report) (seen : Response) : Report :=
  { report with response := some (seen.status, seen.timing) }

def withEntries (report : Report) (entries : List Entry) : Report :=
  { report with entries := report.entries ++ entries }

/-- Adds the verdicts on assertions. The longer of the two lists is cut. -/
def withVerdicts (report : Report) (assertions : List Assertion) (verdicts : List Verdict) :
    Report :=
  report.withEntries (assertions.zipWith Entry.ofVerdict verdicts)

/-- Adds variables. -/
def withBindings (report : Report) (table : Table String String) : Report :=
  { report with extracted := Table.putAll report.extracted table }

def apply (report : Report) (now : Int) : Step → Report
  | .start => report.start now
  | .finish => report.finish now
  | .response seen => report.withResponse seen
  | .verdicts assertions verdicts => report.withVerdicts assertions verdicts
  | .entry entry => report.withEntries [entry]
  | .bindings table => report.withBindings table

def entry? (report : Report) (id : String) : Option Entry :=
  report.entries.find? fun entry => entry.assertionId = id

end Report

end Assay
