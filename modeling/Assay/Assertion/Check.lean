import Assay.Assertion.Basic
import Assay.Assertion.Expected
import Assay.Assertion.Verdict
import Assay.Failure
import Assay.Json.Equality
import Assay.Json.Path
import Assay.Pattern.Matcher
import Assay.Response

/-! # Checking assertions

Each type of assertion looks at its own part of a response. Faults in an assertion, such as an
unknown tag or a pattern that is none, make it fail; they do not end the evaluation. An evaluation
reads the body as JSON once, and its assertions share what was read.
-/

namespace Assay

open Json (Value)

/-! ## Outcomes -/

/-- Whether a check passed, with the sentence for it. -/
structure Outcome where
  passed : Bool
  message : String

def Outcome.of (passed : Bool) (success failure : String) : Outcome :=
  ⟨passed, if passed then success else failure⟩

def Outcome.unknownOperator (assertion : Assertion) : Outcome :=
  ⟨false, s!"Unknown operator: {assertion.operatorTag}"⟩

def Assertion.verdict (assertion : Assertion) (actual : String) (outcome : Outcome) : Verdict :=
  ⟨assertion.id, outcome.passed, actual, outcome.message⟩

/-! ## Checks by type -/

/-- The outcome for a status code, which is compared to a 32-bit integer. -/
def statusOutcome (assertion : Assertion) (actual : Int) : Outcome :=
  let expected := expectedInt 32 assertion.expected
  match assertion.operator? with
  | some .equals => .of (actual = expected)
      s!"Status code is {actual}" s!"Expected {expected}, got {actual}"
  | some .notEquals => .of (actual ≠ expected)
      s!"Status code is not {expected}" s!"Expected not {expected}, got {actual}"
  | some .lessThan => .of (actual < expected)
      s!"Status code {actual} < {expected}" s!"Expected < {expected}, got {actual}"
  | some .greaterThan => .of (actual > expected)
      s!"Status code {actual} > {expected}" s!"Expected > {expected}, got {actual}"
  | _ => .unknownOperator assertion

def checkStatus (assertion : Assertion) (response : Response) : Except Failure Verdict :=
  (writtenInt response.status).map fun actual =>
    assertion.verdict actual (statusOutcome assertion response.status)

/-- The outcome for a time, which is compared to a 64-bit integer. -/
def timingOutcome (assertion : Assertion) (actual : Int) : Outcome :=
  let expected := expectedInt 64 assertion.expected
  match assertion.operator? with
  | some .lessThan => .of (actual < expected)
      s!"Response time {actual}ms < {expected}ms" s!"Expected < {expected}ms, got {actual}ms"
  | some .greaterThan => .of (actual > expected)
      s!"Response time {actual}ms > {expected}ms" s!"Expected > {expected}ms, got {actual}ms"
  | _ => .unknownOperator assertion

def checkResponseTime (assertion : Assertion) (response : Response) : Except Failure Verdict :=
  (writtenInt response.timing).map fun actual =>
    assertion.verdict s!"{actual}ms" (timingOutcome assertion response.timing)

/-- The number of characters of a body that are shown. -/
def previewLength : Nat := 100

def preview (body : String) : String :=
  if previewLength < body.toList.length then
    String.ofList (body.toList.take previewLength) ++ "..."
  else
    body

def holdsText (part whole : String) : Bool := Text.contains part.toList whole.toList

def checkBodyContains (assertion : Assertion) (response : Response) : Except Failure Verdict :=
  let expected := assertion.expected
  let body := response.body
  let verdict := assertion.verdict (preview body)
  match assertion.operator? with
  | some .contains => .ok <| verdict <| .of (holdsText expected body)
      s!"Body contains \"{expected}\"" s!"Body does not contain \"{expected}\""
  | some .notContains => .ok <| verdict <| .of (!holdsText expected body)
      s!"Body does not contain \"{expected}\"" s!"Body contains \"{expected}\""
  | some .matches_ => match Pattern.compile expected with
    | .ok program => .ok <| verdict <| .of (program.found body)
        s!"Body matches pattern \"{expected}\"" s!"Body does not match pattern \"{expected}\""
    | .error refusal => match Failure.ofPattern? refusal with
      | some failure => .error failure
      | none => .ok <| verdict ⟨false, s!"Invalid regex pattern: {expected}"⟩
  | _ => .ok <| verdict <| .unknownOperator assertion

def Response.document? (response : Response) : Option Value :=
  match Json.parse response.body with
  | .ok value => some value
  | .error _ => none

/-- The value to which an expected text compares: its document, else null. -/
def expectedValue (text : String) : Value :=
  match Json.parse text with
  | .ok value => value
  | .error _ => .null

def nodeEquals (node : Option Value) (expected : String) : Bool :=
  match node with
  | some value => Json.equal value (expectedValue expected)
  | none => false

/-- Whether a node is there and its canonical text holds an expected text. -/
def nodeContains (node : Option Value) (expected : String) : Bool :=
  match node with
  | some value => holdsText expected (Json.canonical value)
  | none => false

def nodeOutcome (assertion : Assertion) (node : Option Value) : Outcome :=
  let path := assertion.property
  let expected := assertion.expected
  let actual := Json.render node
  match assertion.operator? with
  | some .exists_ => .of node.isSome
      s!"Property \"{path}\" exists" s!"Property \"{path}\" does not exist"
  | some .notExists => .of node.isNone
      s!"Property \"{path}\" does not exist" s!"Property \"{path}\" exists"
  | some .equals => .of (nodeEquals node expected)
      s!"{path} equals {expected}" s!"Expected {expected}, got {actual}"
  | some .notEquals => .of (!nodeEquals node expected)
      s!"{path} does not equal {expected}" s!"Expected not {expected}, got {actual}"
  | some .contains => .of (nodeContains node expected)
      s!"{path} contains \"{expected}\"" s!"{path} does not contain \"{expected}\""
  | _ => .unknownOperator assertion

/-- Checks a node of the body, which is given as a document if it is one. -/
def checkBodyJson (assertion : Assertion) (document : Option Value) : Except Failure Verdict :=
  match document with
  | none => .ok <| assertion.verdict "Invalid JSON" ⟨false, "Response body is not valid JSON"⟩
  | some document => match Json.resolve document assertion.property with
    | .error refusal => .error (.tooManyDigits refusal)
    | .ok node => .ok <| assertion.verdict (Json.render node) (nodeOutcome assertion node)

def checkHeaderExists (assertion : Assertion) (response : Response) : Verdict :=
  let name := assertion.property
  let present := response.hasHeader name
  assertion.verdict (if present then "exists" else "not found") <|
    match assertion.operator? with
    | some .exists_ => .of present
        s!"Header \"{name}\" exists" s!"Header \"{name}\" not found"
    | some .notExists => .of (!present)
        s!"Header \"{name}\" does not exist" s!"Header \"{name}\" exists"
    | _ => .unknownOperator assertion

def checkHeaderEquals (assertion : Assertion) (response : Response) : Verdict :=
  let name := assertion.property
  let expected := assertion.expected
  match response.header? name with
  | none => assertion.verdict "not found" ⟨false, s!"Header \"{name}\" not found"⟩
  | some value => assertion.verdict value <|
    match assertion.operator? with
    | some .equals => .of (value = expected)
        s!"Header \"{name}\" equals \"{expected}\"" s!"Expected \"{expected}\", got \"{value}\""
    | some .notEquals => .of (value ≠ expected)
        s!"Header \"{name}\" does not equal \"{expected}\""
        s!"Expected not \"{expected}\", got \"{value}\""
    | some .contains => .of (holdsText expected value)
        s!"Header \"{name}\" contains \"{expected}\""
        s!"Header does not contain \"{expected}\""
    | _ => .unknownOperator assertion

/-! ## Evaluation -/

/-- What is known of a body before an assertion is checked. -/
inductive SharedBody where
  /-- The body has not been read yet. -/
  | unread
  /-- The body has been read, as a document or as none. -/
  | read (document : Option Value)

/-- The document of a body: as it was read before, or else as it is read now. -/
def SharedBody.document? (shared : SharedBody) (response : Response) : Option Value :=
  match shared with
  | unread => response.document?
  | read document => document

@[simp] theorem SharedBody.document?_unread (response : Response) :
    unread.document? response = response.document? := rfl

@[simp] theorem SharedBody.document?_read (document : Option Value) (response : Response) :
    (read document).document? response = document := rfl

/-- The verdict on an assertion, given what is known of the body. An assertion that is not enabled
passes. -/
def Assertion.checkWith (assertion : Assertion) (response : Response) (shared : SharedBody) :
    Except Failure Verdict :=
  if !assertion.isEnabled then
    .ok <| assertion.verdict "" ⟨true, "Skipped (disabled)"⟩
  else match assertion.subject? with
    | some .status => checkStatus assertion response
    | some .responseTime => checkResponseTime assertion response
    | some .bodyContains => checkBodyContains assertion response
    | some .bodyJson => checkBodyJson assertion (shared.document? response)
    | some .headerExists => .ok (checkHeaderExists assertion response)
    | some .headerEquals => .ok (checkHeaderEquals assertion response)
    | none => .ok <|
        assertion.verdict "" ⟨false, s!"Unknown assertion type: {assertion.typeTag}"⟩

/-- The verdict on a single assertion, for which nothing is known of the body. -/
def Assertion.check (assertion : Assertion) (response : Response) : Except Failure Verdict :=
  assertion.checkWith response .unread

def evaluate (assertions : List Assertion) (response : Response) :
    Except Failure (List Verdict) :=
  let shared := SharedBody.read response.document?
  assertions.mapM fun assertion => assertion.checkWith response shared

end Assay
