import Assay.Command.Arguments

/-! # Invocations

What the arguments of the command line ask for.
-/

namespace Assay.Command

/-- How the outcome of a run is shown. -/
inductive View where
  | full
  | brief
  | json
  deriving DecidableEq

/-- What can be asked for. -/
inductive Invocation where
  | usage
  | version
  /-- Run a suite on a response. Without a directory no report is kept. -/
  | run (suite response : String) (options : List String) (view : View) (reports : Option String)
  | validate (suite : String)
  | render (template : String) (options : List String)
  | list (template : String)
  | extract (document path : String)
  | format (document : String) (minified : Bool)
  | info (document : String)
  deriving DecidableEq

def Invocation.sources : Invocation → List String
  | run suite response _ _ _ => [suite, response]
  | validate suite => [suite]
  | extract document _ | format document _ | info document => [document]
  | _ => []

def Invocation.reports? : Invocation → Option String
  | run _ _ _ _ reports => reports
  | _ => none

def helpSwitch : Switch := ⟨"--help", none, false⟩

/-- The switches before the name of a command. -/
def generalSwitches : List Switch :=
  [⟨"--version", some 'v', false⟩, ⟨"--debug", none, false⟩, helpSwitch]

def variableSwitch : Switch := ⟨"--var", none, true⟩

def switchesOf (command : String) : List Switch :=
  helpSwitch :: match command with
    | "run" => [variableSwitch, ⟨"--quiet", some 'q', false⟩, ⟨"--output", some 'o', true⟩,
        ⟨"--report-dir", some 'r', true⟩, ⟨"--no-report", none, false⟩]
    | "render" => [variableSwitch, ⟨"--list", none, false⟩]
    | "format" => [⟨"--minify", some 'm', false⟩]
    | _ => []

/-- How a run is to be shown. The format goes before brevity. -/
def viewOf (reading : Reading) : View :=
  if reading.value? "--output" = some "json" then .json
  else if reading.has "--quiet" then .brief
  else .full

def invocationOf? (command : String) (reading : Reading) : Option Invocation :=
  match command, reading.words with
  | "run", [suite, response] =>
    some (.run suite response (reading.values "--var") (viewOf reading)
      (if reading.has "--no-report" then none
        else some ((reading.value? "--report-dir").getD "reports")))
  | "validate", [suite] => some (.validate suite)
  | "render", [template] =>
    some (if reading.has "--list" then .list template
      else .render template (reading.values "--var"))
  | "extract", [document] => some (.extract document "")
  | "extract", [document, path] => some (.extract document path)
  | "format", [document] => some (.format document (reading.has "--minify"))
  | "info", [document] => some (.info document)
  | _, _ => none

def commands : List String := ["run", "validate", "render", "extract", "format", "info"]

def readCommand? (command : String) (arguments : List String) : Option Invocation :=
  if commands.contains command then
    (read? (switchesOf command) true arguments).bind fun reading =>
      if reading.has "--help" then some .usage else invocationOf? command reading
  else none

/-- What the arguments of a command line ask for. The version and help go before a command, which
need not make sense then. -/
def readInvocation? (arguments : List String) : Option Invocation :=
  (read? generalSwitches false arguments).bind fun reading =>
    match reading.settings.find? fun setting => setting.1 ≠ "--debug" with
    | some ("--version", _) => some .version
    | some _ => some .usage
    | none => match reading.words with
      | [] => none
      | command :: arguments => readCommand? command arguments

end Assay.Command
