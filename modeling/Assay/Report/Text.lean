import Assay.Calendar
import Assay.Json.Writer
import Assay.Report.Basic

/-! # The texts of a report

A report as a JSON document, and as a summary for people.
-/

namespace Assay

open Json (Value)

/-- A truth value that may be missing as a JSON value. -/
def optionalBool (value : Option Bool) : Value := value.elim .null .bool

def timeText (microseconds : Int) : String :=
  String.ofList ((Moment.ofMicroseconds microseconds).text 'T')

def Entry.toValue (entry : Entry) : Value :=
  .object [("assertion_id", .string entry.assertionId),
    ("assertion_type", .string entry.typeTag),
    ("operator", .string entry.operatorTag),
    ("property", .string entry.property),
    ("expected", .string entry.expected),
    ("enabled", optionalBool entry.enabled),
    ("passed", optionalBool entry.passed),
    ("actual", .string entry.actual),
    ("message", .string entry.message)]

def Counts.toValue (counts : Counts) : Value :=
  .object [("total", .int counts.total), ("passed", .int counts.passed),
    ("failed", .int counts.failed), ("skipped", .int counts.skipped)]

namespace Report

/-- What a report says about the response, as a JSON object. -/
def responseValue (report : Report) : Value :=
  .object [("status_code", report.response.elim .null fun seen => .int seen.1),
    ("timing_ms", report.response.elim .null fun seen => .int seen.2)]

def toValue (report : Report) : Value :=
  .object [("run_id", .string report.runId),
    ("started_at", .string (timeText report.startedAt)),
    ("ended_at", report.endedAt.elim .null fun time => .string (timeText time)),
    ("duration_ms", report.duration.elim .null .double),
    ("suite_name", .string report.suiteName),
    ("suite_version", .int report.suiteVersion),
    ("response", report.responseValue),
    ("status", .string report.status.word),
    ("summary", report.counts.toValue),
    ("results", .array (report.entries.map Entry.toValue)),
    ("extracted", .object (report.extracted.map fun entry => (entry.1, .string entry.2)))]

/-- A report as a JSON document with a given indentation for each level. -/
def json (report : Report) (indent : Nat := 2) : String := Json.indented indent report.toValue

/-- Whether the integers of a report can be written in a document. -/
def isWritable (report : Report) : Bool :=
  Number.fitsLimit report.suiteVersion &&
    report.response.all fun seen => Number.fitsLimit seen.1 && Number.fitsLimit seen.2

/-- The status as it is shown: a sign and the word in capitals. -/
def statusLine (report : Report) : String :=
  match report.status with
  | .pending => "⏳ PENDING"
  | .running => "🔄 RUNNING"
  | .passed => "✅ PASSED"
  | .failed => "❌ FAILED"

def heavyLine : String := String.ofList (List.replicate 59 '═')

def lightLine : String := String.ofList (List.replicate 59 '─')

/-- A number that may be missing, as it is shown. -/
def shownNumber (number : Option Int) : String :=
  number.elim "None" fun value => String.ofList (Number.intText value)

def entryLines (entry : Entry) : List String :=
  let sign :=
    if !entry.isEnabled then "⏭️" else if entry.passed = some true then "✅" else "❌"
  s!"  {sign} [{entry.assertionId}] {entry.typeTag} {entry.operatorTag}" ::
    if entry.hasFailed then [s!"      └─ {entry.message}"] else []

def variableLine (entry : String × String) : String :=
  "  \x7b\x7b" ++ entry.1 ++ "\x7d\x7d = " ++ entry.2

def summary (report : Report) : String :=
  let counts := report.counts
  let status := shownNumber (report.response.map Prod.fst)
  let timing := shownNumber (report.response.map Prod.snd)
  "\n".intercalate <|
    [heavyLine,
      s!"  Run Report: {report.suiteName}",
      heavyLine,
      s!"  Run ID:     {report.runId}",
      s!"  Status:     {report.statusLine}",
      s!"  Response:   {status} in {timing}ms",
      lightLine,
      s!"  Assertions: {counts.passed} passed, {counts.failed} failed, {counts.skipped} skipped",
      lightLine] ++
    report.entries.flatMap entryLines ++
    (if report.extracted.isEmpty then [] else lightLine :: report.extracted.map variableLine) ++
    [heavyLine]

end Report

end Assay
