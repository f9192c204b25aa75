import Assay.Command.Invocation
import Assay.Command.Outcome
import Assay.Console.Sequence
import Assay.Json.Path
import Assay.Json.Profile
import Assay.Report.Text
import Assay.Run

/-! # Execution

Each command as a function of what it is asked for, of the files that it can see, of the time and
of a fresh id. A command line that makes no sense, or that names a file which is not there, leads
to nothing.
-/

namespace Assay.Command

/-- The name and the version that are shown on request. -/
def versionText : String := "⚡ voltcheck v0.1.0"

/-- A short account of the commands. -/
def usageText : String := "\n".intercalate [
  "Usage: voltcheck [--version] [--debug] COMMAND",
  "  run SUITE RESPONSE [--var NAME=VALUE] [--quiet] [--output text|json]",
  "      [--report-dir DIRECTORY] [--no-report]",
  "  validate SUITE",
  "  render TEXT [--var NAME=VALUE] [--list]",
  "  extract DOCUMENT [PATH]",
  "  format DOCUMENT [--minify]",
  "  info DOCUMENT"]

/-- The levels of collections that the stack leaves to a value of a suite in a command. -/
def usualRoom : Nat := 979

/-- What a command can see. -/
structure Surroundings where
  /-- What stands at a path. -/
  find? : String → Option Node
  /-- What stands in the way of a new file. -/
  obstacle? : String → Option Obstacle
  timeline : Timeline
  freshId : String
  /-- The levels of collections that the stack leaves to a value of a suite. -/
  room : Nat := usualRoom

/-- The levels that the stack leaves to the body of a response, which is written with three calls
fewer on it. -/
def Surroundings.bodyRoom (surroundings : Surroundings) : Nat := surroundings.room + 3

def Surroundings.ofFolder (folder : Folder) (timeline : Timeline) (freshId : String) :
    Surroundings where
  find? := folder.find?
  obstacle? := folder.obstacle?
  timeline
  freshId

/-- Goes on with what stands at a path, if something does. -/
def withNode (surroundings : Surroundings) (path : String) (next : Node → Outcome) : Outcome :=
  match surroundings.find? path with
  | some node => next node
  | none => .ofEnding .misuse

def withDocument (surroundings : Surroundings) (path : String) (next : String → Outcome) :
    Outcome :=
  withNode surroundings path fun node => match node with
    | .directory => .broken .directory
    | .file content => match Text.decode? content with
      | none => .broken .notText
      | some text => next text

/-- Goes on with the variables that options give, if they can be read. -/
def withOptions (options : List String) (next : Table String String → Outcome) : Outcome :=
  match readOptions options with
  | .ok bindings => next bindings
  | .error _ => .ofEnding .misuse

/-- Goes on with what is loaded from a node and with its review, or shows under a heading why
nothing is. -/
def withLoaded {α : Type} (load : String → Option ByteArray → Except LoadFailure (Loaded α))
    (heading path : String) (node : Node) (next : α → Review → Outcome) : Outcome :=
  match node with
  | .directory => .broken .directory
  | .file content => match load (cleanPath path) (some content) with
    | .error cause => .broken (.load cause)
    | .ok (some result, found) => next result found
    | .ok (none, found) => (Outcome.ofEnding .failure).review heading found

def failureMarkup (entry : Entry) : String :=
  s!"[red]❌ {Console.escape entry.assertionId}:[/red] {Console.escape entry.message}"

def countsLine (report : Report) : String :=
  let word := String.ofList (report.status.word.toList.map Char.toUpper)
  s!"{word}: {report.counts.passed} passed, {report.counts.failed} failed"

def verdictMarkup (entry : Entry) : String :=
  if !entry.isEnabled then "[dim]SKIP[/dim]"
  else if entry.passed = some true then "[green]PASS[/green]"
  else "[red]FAIL[/red]"

def checkText (entry : Entry) : String :=
  s!"{entry.typeTag} {entry.operatorTag}" ++
    if entry.property.isEmpty then "" else s!" ({entry.property})"

/-- The entries of a report as a grid. The name of the suite may hold markup. -/
def resultGrid (report : Report) : Console.Grid where
  title := s!"Assertions - {report.suiteName}"
  columns := [⟨"ID", .cut⟩, ⟨"Check", .cut⟩, ⟨"Result", .cut⟩, ⟨"Actual", .fold⟩,
    ⟨"Message", .fold⟩]
  rows := report.entries.map fun entry =>
    [Console.escape entry.assertionId, Console.escape (checkText entry), verdictMarkup entry,
      Console.escape entry.actual, Console.escape entry.message]

def demandText (assertion : Assertion) : String :=
  let demand := Text.trim s!"{assertion.operatorTag} {assertion.expected}".toList
  (if assertion.property.isEmpty then "" else s!"{assertion.property} ") ++
    String.ofList demand ++ if assertion.isEnabled then "" else " (disabled)"

def assertionGrid (suite : Suite) : Console.Grid where
  title := "Assertions"
  columns := [⟨"ID", .cut⟩, ⟨"Type", .cut⟩, ⟨"Details", .cut⟩]
  rows := suite.assertions.map fun assertion =>
    [Console.escape assertion.id, Console.escape assertion.typeTag,
      Console.escape (demandText assertion)]

def showReport (view : View) (report : Report) (next : Outcome) : Outcome :=
  match view with
  | .json => if report.isWritable then next.raw report.json else .broken .unwritable
  | .brief =>
    (report.entries.filter Entry.hasFailed).foldr
      (fun entry next => next.marked (failureMarkup entry)) (next.marked (countsLine report))
  | .full => ((next.marked ("\n" ++ Console.escape report.summary)).grid (resultGrid report)).raw ""

def keepReport (surroundings : Surroundings) (view : View) (directory : Option String)
    (report : Report) (next : Outcome) : Outcome :=
  match directory with
  | none => next
  | some directory =>
    let path := joinPath directory s!"{report.runId}.json"
    let next := match view with
      | .full => next.marked s!"\n📁 Report saved: {path}"
      | _ => next
    -- the directory is made before the document, and the document before the file
    match surroundings.obstacle? path, report.isWritable with
    | none, false | some .isDirectory, false => .broken .unwritable
    | obstacle, _ => next.keep ⟨path, report.json⟩ obstacle

/-- How a command ends that has run a suite. -/
def endingOf (report : Report) : Ending :=
  if report.status = .passed then .success else .failure

def finishRun (surroundings : Surroundings) (view : View) (reports : Option String)
    (report : Report) : Outcome :=
  showReport view report (keepReport surroundings view reports report (.ofEnding (endingOf report)))

/-- Runs a suite on a response. The ending tells whether all went well. -/
def executeRun (surroundings : Surroundings) (suite response : String) (options : List String)
    (view : View) (reports : Option String) : Outcome :=
  withNode surroundings suite fun suiteNode =>
  withNode surroundings response fun responseNode =>
  withOptions options fun overrides =>
  withLoaded (Suite.load surroundings.room) "\n[red]❌ Suite validation failed:[/red]" suite
    suiteNode fun suite _ =>
  withLoaded (Response.load surroundings.bodyRoom) "\n[red]❌ Response validation failed:[/red]"
    response responseNode fun response _ =>
  match suite.run response overrides surroundings.freshId surroundings.timeline with
  | .error cause => .broken (.evaluation cause)
  | .ok report => finishRun surroundings view reports report

/-- Looks over a suite. -/
def executeValidate (surroundings : Surroundings) (path : String) : Outcome :=
  withNode surroundings path fun node =>
    Outcome.marked s!"\n📄 Validating: {cleanPath path}" <|
      withLoaded (Suite.load surroundings.room) "\n[red]❌ Validation failed:[/red]" path node
        fun suite found =>
        let table := ((Outcome.ofEnding .success).grid (assertionGrid suite)).raw ""
        let warned :=
          if found.warnings.isEmpty then table
          else if found.isWritable then table.plain found.text
          else .broken .unwritable
        (warned.marked s!"   Assertions: {suite.assertions.length}").marked
          s!"\n[green]✅ Valid suite:[/green] {Console.escape suite.name}"

/-- Shows a text of the user's own, without the sequences that steer a terminal. -/
def echo (text : String) (next : Outcome) : Outcome :=
  next.raw (String.ofList (Console.withoutSequences text.toList))

/-- The outcome of what a command line asks for. -/
def execute (surroundings : Surroundings) : Invocation → Outcome
  | .usage => (Outcome.ofEnding .success).raw usageText
  | .version => (Outcome.ofEnding .success).raw versionText
  | .run suite response options view reports =>
    executeRun surroundings suite response options view reports
  | .validate suite => executeValidate surroundings suite
  | .render template options => withOptions options fun bindings =>
      echo (Template.substitute bindings template) (.ofEnding .success)
  | .list template => (Template.findVariables template).foldr echo (.ofEnding .success)
  | .extract document path => withDocument surroundings document fun text =>
      match Json.extract text path with
      | .ok found => echo found (.ofEnding .success)
      | .error refusal => .broken (.tooManyDigits refusal)
  | .format document minified => withDocument surroundings document fun text =>
      echo (if minified then Json.minify text else Json.format text) (.ofEnding .success)
  | .info document => withDocument surroundings document fun text =>
      (Outcome.ofEnding .success).raw (Json.indented 2 (Json.profile text).toValue)

def perform (surroundings : Surroundings) (arguments : List String) : Outcome :=
  match readInvocation? arguments with
  | some invocation => execute surroundings invocation
  | none => .ofEnding .misuse

end Assay.Command
