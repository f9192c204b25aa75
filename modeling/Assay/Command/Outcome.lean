import Assay.Command.Folder
import Assay.Console.Grid
import Assay.Failure
import Assay.Loading

/-! # Outcomes

What a command leaves behind: the text that it has shown, the report that it keeps, and how it has
ended. A command is put together from its end: each step shows something and then goes on with the
rest, unless it breaks the command off.
-/

namespace Assay.Command

/-- What breaks a command off. -/
inductive Breakdown where
  /-- A suite or a response cannot be loaded. -/
  | load (cause : LoadFailure)
  | evaluation (cause : Failure)
  | tooManyDigits (refusal : Number.TooManyDigits)
  /-- A review cannot be written because of an integer with too many digits. -/
  | unwritable
  /-- A tag is closed that is not open. -/
  | markup
  /-- A directory is to be read. -/
  | directory
  /-- A document is no text. -/
  | notText
  | obstacle (obstacle : Obstacle)
  deriving DecidableEq

def Breakdown.message : Breakdown → String
  | load .notText | notText => "The file is not UTF-8 text"
  | load cause => cause.message
  | evaluation cause => cause.message
  | tooManyDigits refusal => refusal.message
  | unwritable => Number.unwritableMessage
  | markup => "A tag is closed that is not open"
  | directory | obstacle .isDirectory => "Is a directory"
  | obstacle .fileExists => "File exists"
  | obstacle .notDirectory => "Not a directory"

/-- How a command ends. -/
inductive Ending where
  | success
  | failure
  /-- The command line makes no sense. -/
  | misuse
  | broken (cause : Breakdown)
  deriving DecidableEq

def Ending.code : Ending → Nat
  | success => 0
  | failure => 1
  | misuse => 2
  | broken _ => 1

structure KeptReport where
  path : String
  content : String
  deriving DecidableEq

/-- What a command leaves behind. -/
structure Outcome where
  output : String := ""
  kept : Option KeptReport := none
  ending : Ending := .success
  deriving DecidableEq

namespace Outcome

def ofEnding (ending : Ending) : Outcome := { ending }

def broken (cause : Breakdown) : Outcome := .ofEnding (.broken cause)

def raw (text : String) (next : Outcome) : Outcome :=
  { next with output := text ++ "\n" ++ next.output }

def lines (lines : List (List Char)) (next : Outcome) : Outcome :=
  next.raw (String.ofList (List.intercalate ['\n'] lines))

def marked (markup : String) (next : Outcome) : Outcome :=
  match Console.shown? markup with
  | some text => next.lines (Console.expandedLines text)
  | none => broken .markup

/-- Shows a text that may look like markup. -/
def plain (text : String) (next : Outcome) : Outcome := next.marked (Console.escape text)

def review (heading : String) (found : Review) (next : Outcome) : Outcome :=
  (if found.isWritable then next.plain found.text else broken .unwritable).marked heading

def grid (grid : Console.Grid) (next : Outcome) : Outcome :=
  match grid.lines? with
  | some lines => next.lines lines
  | none => broken .markup

/-- Keeps a report, unless something stands in the way. -/
def keep (report : KeptReport) (obstacle : Option Obstacle) (next : Outcome) : Outcome :=
  match obstacle with
  | some obstacle => broken (.obstacle obstacle)
  | none => { next with kept := some report }

end Outcome

end Assay.Command
