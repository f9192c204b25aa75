import Assay.Assertion.Check
import Assay.Json.Profile
import Assay.Payload
import Assay.Template

/-! # Text in, text out

The operations of the library on texts alone. Compound arguments are given as JSON text, and
compound results are canonical JSON text. A text that cannot be used gives a fixed result and
never a refusal.
-/

namespace Assay.Exchange

open Json (Value)
open Number (TooManyDigits)

def value? (text : String) : Option Value := (Json.parse text).toOption

def table? (text : String) : Option (Table String String) :=
  (value? text).bind Value.asStringTable?

def texts? (text : String) : Option (List String) := (value? text).bind Value.asStrings?

def textsText (texts : List String) : String :=
  Json.canonical (.array (texts.map .string))

/-- A text with the placeholders replaced that a table gives a value to. A text in which no
placeholder can be is returned before the table is read. Without a readable table the text stays
as it is. -/
def substitute (text table : String) : String :=
  if text.isEmpty || !Template.mayHold text then text
  else match table? table with
    | none => text
    | some bindings => Template.substitute bindings text

/-- Several texts with their placeholders replaced. -/
def substituteAll (texts table : String) : String :=
  match texts? texts with
  | none => textsText []
  | some texts => match table? table with
    | none => textsText texts
    | some bindings => textsText (Template.substituteAll bindings texts)

def findVariables (text : String) : String := textsText (Template.findVariables text)

def hasVariables (text : String) : Bool := Template.hasVariables text

def extract (document path : String) : Except TooManyDigits String := Json.extract document path

def extractAll (document paths : String) : Except TooManyDigits String :=
  match value? document, texts? paths with
  | some document, some paths =>
    (Json.extractAll document paths).map fun found => Json.canonical (.object found)
  | _, _ => .ok (Json.canonical (.object []))

/-- A document with one item or member on each line. -/
def format (document : String) : String := Json.format document

def minify (document : String) : String := Json.minify document

def isDocument (document : String) : Bool := Json.isDocument document

def profile (document : String) : String := Json.canonical (Json.profile document).toValue

def assertionJson (assertion : Assertion) : Value :=
  .object [("id", .string assertion.id), ("type", .string assertion.typeTag),
    ("property", .string assertion.property), ("operator", .string assertion.operatorTag),
    ("expected", .string assertion.expected),
    ("enabled", match assertion.enabled with
      | some switch => .bool switch
      | none => .null)]

def responseJson (response : Response) : Value :=
  .object [("statusCode", .int response.status),
    ("headers", .object (response.headers.map fun header => (header.1, .string header.2))),
    ("body", .string response.body), ("timingMs", .int response.timing)]

def verdictJson (verdict : Verdict) : Value :=
  .object [("assertionId", .string verdict.id), ("passed", .bool verdict.passed),
    ("actual", .string verdict.actual), ("message", .string verdict.message)]

/-- The verdicts on a list of assertions about a response. A payload of the wrong shape gives an
empty list. -/
def run (assertions response : String) : Except Failure String :=
  let assertions := (value? assertions).bind fun value => Payload.assertions? (.ofJson value)
  let response := (value? response).bind fun value => Payload.response? (.ofJson value)
  match assertions, response with
  | some assertions, some response =>
    (evaluate assertions response).map fun verdicts =>
      Json.canonical (.array (verdicts.map verdictJson))
  | _, _ => .ok (Json.canonical (.array []))

end Assay.Exchange
