import Assay.Payload
import Assay.Text.Encoding
import Assay.Yaml.Reader

/-! # Loading suites and responses

A suite and a response are described by a YAML map. What is wrong with the description is told in
a review; a file that holds no text, a few faults of scalars, a key that a review would have to name
and that cannot be written, and a value that exhausts the stack end the loading as a whole.
-/

namespace Assay

/-- What ends a loading. -/
inductive LoadFailure where
  | notText
  | fault (fault : Yaml.Fault)
  /-- A key has an integer with too many digits. -/
  | unwritable
  /-- A value is nested too deep for what is left of the stack. -/
  | exhausted
  deriving DecidableEq

/-- The wording of what ends a loading. -/
def LoadFailure.message : LoadFailure → String
  | notText => ""
  | fault cause => cause.message
  | unwritable => Number.unwritableMessage
  | exhausted => ""

/-- What a loading gives: a result unless the review has errors, and the review. -/
abbrev Loaded (α : Type) := Option α × Review

/-- How a description that cannot be used at all is spoken of. -/
structure Wording where
  place : String
  wrongKind : String
  syntaxAdvice : Option String := none

def Wording.ofText : Wording where
  place := "yaml"
  wrongKind := "Content must be a YAML object"

def Wording.ofFile (path : String) : Wording where
  place := path
  wrongKind := "File must contain a YAML object (not a list or scalar)"
  syntaxAdvice := "Check YAML formatting (indentation, colons, etc.)"

/-- The entries of a map, or a review that says why there are none. -/
def readEntries (wording : Wording) (text : String) :
    Except LoadFailure (Except Review (List (Datum × Datum))) :=
  match Yaml.read text with
  | .error .malformed =>
    .ok (.error (.error wording.place "Invalid YAML syntax: " .null wording.syntaxAdvice))
  | .error fault => .error (.fault fault)
  | .ok datum => match datum.entries? with
    | none => .ok (.error (.error wording.place wording.wrongKind (.text datum.kind)))
    | some entries => .ok (.ok entries)

/-- The entries of a map in a file, if there is the file. -/
def openEntries (path : String) (content : Option ByteArray) :
    Except LoadFailure (Except Review (List (Datum × Datum))) :=
  match content with
  | none =>
    .ok (.error (.error path "File not found" .null "Check the file path is correct"))
  | some content => match Text.decode? content with
    | none => .error .notText
    | some text => readEntries (.ofFile path) text

/-- What is made of entries, if there are any. -/
def loadedWith {α : Type} (make : List (Datum × Datum) → Except LoadFailure (Loaded α))
    (opened : Except LoadFailure (Except Review (List (Datum × Datum)))) :
    Except LoadFailure (Loaded α) :=
  match opened with
  | .error failure => .error failure
  | .ok (.error review) => .ok (none, review)
  | .ok (.ok entries) => make entries

/-- What a review and a reading give together, unless the stack is exhausted. -/
def loadedBy {α : Type} : Except Datum.Exhausted (Loaded α) → Except LoadFailure (Loaded α)
  | .ok loaded => .ok loaded
  | .error _ => .error .exhausted

/-- A suite with the review of its entries, which names every field that is not known. -/
def Suite.ofNamed (room : Nat) (entries : List (Datum × Datum)) :
    Except LoadFailure (Loaded Suite) :=
  if Datum.keysAreWritable entries then loadedBy (ofReviewed room entries) else .error .unwritable

/-- A suite from a YAML text, with some room on the stack for the JSON text of a value. -/
def Suite.ofYaml (room : Nat) (text : String) : Except LoadFailure (Loaded Suite) :=
  loadedWith (Suite.ofNamed room) (readEntries .ofText text)

def Suite.load (room : Nat) (path : String) (content : Option ByteArray) :
    Except LoadFailure (Loaded Suite) :=
  loadedWith (Suite.ofNamed room) (openEntries path content)

/-- A response with the review of its fields, which names every header that is no text. -/
def Response.ofNamed (room : Nat) (fields : List (Datum × Datum)) :
    Except LoadFailure (Loaded Response) :=
  if headersAreWritable fields then loadedBy (ofReviewed room fields) else .error .unwritable

def Response.load (room : Nat) (path : String) (content : Option ByteArray) :
    Except LoadFailure (Loaded Response) :=
  loadedWith (Response.ofNamed room) (openEntries path content)

end Assay
