/-! # Arguments of a command line

A command line is a list of words among which there are switches. A long switch begins with two
hyphens and may carry its value behind an equals sign; short ones follow a single hyphen and may
stand together. Two hyphens alone end the switches.
-/

namespace Assay.Command

/-- A switch: its long name, the letter of its short form, and whether a value belongs to it. -/
structure Switch where
  long : String
  short : Option Char := none
  takesValue : Bool := false
  deriving DecidableEq

/-- A switch that was given, by its long name, with its value or with an empty one. -/
abbrev Setting := String × String

/-- The switches and the other words of a command line. -/
structure Reading where
  settings : List Setting := []
  words : List String := []
  deriving DecidableEq

/-- What a single argument says: settings, and the long name of a switch whose value is the next
argument. -/
abbrev Clause := List Setting × Option String

/-- What a long switch says, given what stands behind its equals sign. -/
def longClause? (switches : List Switch) (name : String) (value : Option String) : Option Clause :=
  (switches.find? fun switch => switch.long = name).bind fun switch =>
    match switch.takesValue, value with
    | true, some value => some ([(switch.long, value)], none)
    | true, none => some ([], some switch.long)
    | false, none => some ([(switch.long, "")], none)
    | false, some _ => none

/-- What the letters of short switches say. What stands behind the letter of a switch with a value
is that value. -/
def shortClause? (switches : List Switch) : List Char → Option Clause
  | [] => some ([], none)
  | letter :: rest =>
    (switches.find? fun switch => switch.short = some letter).bind fun switch =>
      if switch.takesValue then
        if rest.isEmpty then some ([], some switch.long)
        else some ([(switch.long, String.ofList rest)], none)
      else
        (shortClause? switches rest).map fun (settings, awaited) =>
          ((switch.long, "") :: settings, awaited)

/-- What an argument that begins with a hyphen says, if it is made of switches. -/
def clause? (switches : List Switch) (argument : String) : Option Clause :=
  match argument.toList with
  | '-' :: '-' :: _ =>
    let name := argument.toList.takeWhile (· ≠ '=')
    let value := argument.toList.drop (name.length + 1)
    longClause? switches (String.ofList name)
      (if argument.toList.contains '=' then some (String.ofList value) else none)
  | _ :: letters => shortClause? switches letters
  | [] => none

/-- Whether an argument is a word: it does not begin with a hyphen, or is one alone. -/
def isWord (argument : String) : Bool :=
  match argument.toList with
  | '-' :: _ :: _ => false
  | _ => true

/-- The reading of the arguments that follow a switch which awaits its value, or which follow none.
With `mixed` switches may stand behind words; else all that follows the first word is words. -/
def readFrom? (switches : List Switch) (mixed : Bool) :
    Option String → List String → Option Reading
  | none, [] => some {}
  | some _, [] => none
  | some name, value :: rest =>
    (readFrom? switches mixed none rest).map fun reading =>
      { reading with settings := (name, value) :: reading.settings }
  | none, argument :: rest =>
    if argument = "--" then some { words := rest }
    else if isWord argument then
      if mixed then
        (readFrom? switches mixed none rest).map fun reading =>
          { reading with words := argument :: reading.words }
      else some { words := argument :: rest }
    else
      (clause? switches argument).bind fun (settings, awaited) =>
        (readFrom? switches mixed awaited rest).map fun reading =>
          { reading with settings := settings ++ reading.settings }

/-- The reading of a command line, unless it has an unknown switch or lacks a value. -/
def read? (switches : List Switch) (mixed : Bool) (arguments : List String) : Option Reading :=
  readFrom? switches mixed none arguments

namespace Reading

/-- Whether a switch was given. -/
def has (reading : Reading) (name : String) : Bool :=
  reading.settings.any fun setting => setting.1 = name

/-- The values of a switch in the order in which they were given. -/
def values (reading : Reading) (name : String) : List String :=
  (reading.settings.filter fun setting => setting.1 = name).map Prod.snd

def value? (reading : Reading) (name : String) : Option String := (reading.values name).getLast?

end Reading

end Assay.Command
