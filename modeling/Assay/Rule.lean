import Assay.Pattern.Matcher
import Assay.Query.Engine
import Assay.Response
import Assay.Text.Basic
import Assay.Text.Quoted

/-! # Extraction

A rule lifts one value out of a response into a variable. Values are text: strings stay as they
are and other values become JSON text. A rule whose source has nothing to offer, or cannot be
read, leaves its variable alone.
-/

namespace Assay

open Json (Value)

/-- Where a value comes from. -/
inductive Source where
  | json
  | jsonpath
  | header
  | regex
  | status
  | body
  deriving DecidableEq

/-- All sources, in the alphabetical order of their tags. -/
def Source.all : List Source := [body, header, json, jsonpath, regex, status]

def Source.tag : Source → String
  | json => "json"
  | jsonpath => "jsonpath"
  | header => "header"
  | regex => "regex"
  | status => "status"
  | body => "body"

def Source.ofTag? (tag : String) : Option Source := all.find? fun source => source.tag = tag

def Source.unknownMessage (tag : String) : String :=
  String.ofList (Text.quoted tag.toList) ++ " is not a valid ExtractionType"

def Source.needsPath : Source → Bool
  | status | body => false
  | _ => true

@[simp] theorem Source.ofTag?_tag (source : Source) : Source.ofTag? source.tag = some source := by
  cases source <;> decide

/-- A rule that fills a variable. The path is a path, a query, a header name or a pattern. -/
structure Rule where
  source : Source
  path : String
  target : String
  deriving DecidableEq

/-- A value as the text of a variable. Null has none. -/
def variableText : Value → Option String
  | .null => none
  | .string text => some text
  | other => some (Json.canonical other)

/-- The text of the node at a path of the body. A blank path leads nowhere. -/
def extractPath (body path : String) : Except Failure (Option String) :=
  if (Text.trim path.toList).isEmpty then .ok none
  else match Json.parse body with
    | .error _ => .ok none
    | .ok document => match Json.resolve document path with
      | .error refusal => .error (.tooManyDigits refusal)
      | .ok node => .ok (node.bind variableText)

/-- The text of the first node of the body to which a query leads in an engine. -/
def extractQueryBy (engine : Query.Engine) (body query : String) :
    Except Failure (Option String) :=
  match Json.parse body with
  | .error _ => .ok none
  | .ok document => match engine.read query with
    | .error .malformed => .ok none
    | .error (.tooManyDigits refusal) => .error (.tooManyDigits refusal)
    | .ok query => (engine.first? query document).map fun found => found.bind variableText

/-- The text of the first node of the body to which a query leads. -/
def extractQuery : String → String → Except Failure (Option String) :=
  extractQueryBy Query.engine

def extractPattern (body pattern : String) : Except Failure (Option String) :=
  match Pattern.compile pattern with
  | .ok program => .ok (program.pick? body)
  | .error refusal => match Failure.ofPattern? refusal with
    | some failure => .error failure
    | none => .ok none

def Rule.extract (rule : Rule) (response : Response) : Except Failure (Option String) :=
  match rule.source with
  | .json => extractPath response.body rule.path
  | .jsonpath => extractQuery response.body rule.path
  | .header => .ok (response.header? rule.path)
  | .regex => extractPattern response.body rule.path
  | .status => (writtenInt response.status).map some
  | .body => .ok (some response.body)

def extractVariables (rules : List Rule) (response : Response) :
    Except Failure (Table String String) :=
  rules.foldlM (fun bindings rule => do
    match ← rule.extract response with
    | some value => return bindings.put rule.target value
    | none => return bindings) []

end Assay
