import Assay.Assertion.Catalog
import Assay.Rule
import Assay.Review

/-! # Suites

The checks to be made on one response, with the variables that they mention and the rules by which
further variables are filled, and what the entries of a suite have to look like. Missing and unknown
top-level fields are looked for first, and only when there are none are the fields looked into. Tags
that name no type, or no operator of their type, give a warning.
-/

namespace Assay

structure Suite where
  version : Int
  name : String
  bindings : Table String String := []
  assertions : List Assertion := []
  rules : List Rule := []
  deriving DecidableEq

namespace Suite

/-- The fields that every suite has, in alphabetical order. -/
def requiredFields : List String := ["assertions", "name", "version"]

/-- All fields that a suite may have, in alphabetical order. -/
def knownFields : List String := ["assertions", "extract", "name", "variables", "version"]

def inSentence (items : List String) : String := ", ".intercalate items

def reviewFields (entries : List (Datum × Datum)) : Review :=
  let missing := requiredFields.filter fun name => (Datum.fieldOf? entries name).isNone
  let unknown := (entries.map Prod.fst).filter fun key => !knownFields.any (key.text? = some ·)
  let unknown := (unknown.map Datum.named).mergeSort (fun left right => left ≤ right)
  Review.join (missing.map fun name =>
      Review.error name s!"Required field '{name}' is missing" .null
        s!"Add '{name}:' to your suite file") ++
    Review.join (unknown.map fun name =>
      Review.error name s!"Unknown top-level field '{name}'" .null
        s!"Valid fields are: {inSentence knownFields}")

def reviewVersion (version : Datum) : Review :=
  match version.int? with
  | none => .error "version" "Must be an integer" version "Use 'version: 1'"
  | some number => .when (number < 1) (.error "version" "Must be >= 1" version)

/-- A review of the name, a text that is not blank. -/
def reviewName (name : Datum) : Review :=
  match name.text? with
  | none => .error "name" "Must be a string" name
  | some text => .when (Text.trim text.toList).isEmpty
      (.error "name" "Cannot be empty" .null "Provide a descriptive name for your suite")

def reviewVariable (key value : Datum) : Review :=
  match key.text? with
  | none => .error "variables" "Variable names must be strings" key
  | some name => .when (!value.isScalar)
      (.error s!"variables.{name}" "Variable values must be scalars" value
        "Quote structured values as JSON text")

/-- A review of the variables, a map from texts to scalars, which may be left out. -/
def reviewVariables (bindings : Datum) : Review :=
  if bindings.isNull then .clean
  else match bindings.entries? with
    | none => .error "variables" "Must be an object (key-value pairs)" bindings
    | some entries => .join (entries.map fun entry => reviewVariable entry.1 entry.2)

def properId? (entry : Datum) : Option String :=
  match entry.entries? with
  | none => none
  | some fields => (Datum.fieldOf fields "id").text?.filter fun id => !id.isEmpty

/-- A review of the id of an assertion, a text that no earlier entry has. -/
def reviewId (place : String) (earlier : List String) (id : Datum) : Review :=
  let place := s!"{place}.id"
  if !id.isGiven then
    .error place "Assertion must have an 'id' field" .null
      "Add a unique identifier like 'id: status_ok'"
  else match id.text? with
    | none => .error place "Assertion id must be a string" id
    | some text => .when (earlier.contains text)
        (.error place "Duplicate assertion id" id "Each assertion must have a unique id")

def reviewTag (place field : String) (tag : Datum) : Review :=
  .when tag.text?.isNone
    (.error s!"{place}.{field}" s!"Assertion requires a string '{field}' field" tag)

/-- A review of the property, a text that may be left out. -/
def reviewProperty (place : String) (property : Datum) : Review :=
  .when (!property.isNull && property.text?.isNone)
    (.error s!"{place}.property" "Property must be a string (JSON path or header name)" property)

/-- A review of the expected value, which has JSON text if it is there. -/
def reviewExpected (room : Nat) (place : String) (expected : Option Datum) : Review :=
  match expected with
  | none => .clean
  | some value => .when (!value.isJson room)
      (.error s!"{place}.expected" "Expected value must be text or plain JSON data" value
        "Quote dates, timestamps and other special values")

/-- A review of the switch, a truth value that may be left out. -/
def reviewEnabled (place : String) (enabled : Datum) : Review :=
  .when (!enabled.isNull && enabled.bool?.isNone)
    (.error s!"{place}.enabled" "Must be true or false" enabled)

def reviewSupport (place typeTag operatorTag : String) : Review :=
  match Subject.ofTag? typeTag with
  | none =>
    .warning s!"{place}.type" "Unknown assertion type; it will always fail" (.text typeTag)
      s!"Valid types: {inSentence (Subject.all.map Subject.tag)}"
  | some subject =>
    .when (!subject.operators.any fun operator => operator.tag = operatorTag)
      (.warning s!"{place}.operator"
        s!"Operator not supported by '{typeTag}'; it will always fail" (.text operatorTag)
        s!"Valid operators: {inSentence (subject.operators.map Operator.tag)}")

def reviewAssertion (room : Nat) (place : String) (earlier : List String)
    (fields : List (Datum × Datum)) : Review :=
  let field := Datum.fieldOf fields
  reviewId place earlier (field "id") ++
    reviewTag place "type" (field "type") ++
    reviewTag place "operator" (field "operator") ++
    reviewProperty place (field "property") ++
    reviewExpected room place (Datum.fieldOf? fields "expected") ++
    reviewEnabled place (field "enabled") ++
    match (field "type").text?, (field "operator").text? with
    | some typeTag, some operatorTag => reviewSupport place typeTag operatorTag
    | _, _ => .clean

/-- A review of the assertions from an index on, behind entries with the given ids. -/
def reviewAssertionsFrom (room index : Nat) (earlier : List String) : List Datum → Review
  | [] => .clean
  | entry :: rest =>
    let place := s!"assertions[{index}]"
    (match entry.entries? with
      | none => .error place "Assertion must be an object" entry
      | some fields => reviewAssertion room place earlier fields) ++
      reviewAssertionsFrom room (index + 1) (earlier ++ (properId? entry).toList) rest

def reviewAssertions (room : Nat) (assertions : Datum) : Review :=
  match assertions.items? with
  | none => .error "assertions" "Must be a list" assertions
  | some items => reviewAssertionsFrom room 0 [] items

/-- A review of the path of a rule. A source that is read by a path needs one. -/
def reviewRulePath (place : String) (source : Option Source) (path : Datum) : Review :=
  let place := s!"{place}.path"
  match source with
  | some source =>
    if source.needsPath && !path.isGiven then
      .error place s!"Extraction type '{source.tag}' requires a 'path' field"
    else
      .when (!path.isNull && path.text?.isNone) (.error place "Path must be a string" path)
  | none => .when (!path.isNull && path.text?.isNone) (.error place "Path must be a string" path)

def reviewRule (place : String) (fields : List (Datum × Datum)) : Review :=
  let field := Datum.fieldOf fields
  let source := (field "type").text?.bind Source.ofTag?
  let target := field "variable"
  .when source.isNone
      (.error s!"{place}.type" "Invalid extraction type" (field "type")
        s!"Valid types: {inSentence (Source.all.map Source.tag)}") ++
    reviewRulePath place source (field "path") ++
    .when (!target.isGiven || target.text?.isNone)
      (.error s!"{place}.variable" "Extraction rule requires a 'variable' name" target)

def reviewRulesFrom (index : Nat) : List Datum → Review
  | [] => .clean
  | entry :: rest =>
    let place := s!"extract[{index}]"
    (match entry.entries? with
      | none => .error place "Extraction rule must be an object" entry
      | some fields => reviewRule place fields) ++ reviewRulesFrom (index + 1) rest

/-- A review of the rules, a list of maps that may be left out. -/
def reviewRules (rules : Datum) : Review :=
  if rules.isNull then .clean
  else match rules.items? with
    | none => .error "extract" "Must be a list" rules
    | some items => reviewRulesFrom 0 items

/-- A review of the entries of a suite, with some room on the stack for trying to write values. -/
def review (room : Nat) (entries : List (Datum × Datum)) : Review :=
  let field := Datum.fieldOf entries
  let fields := reviewFields entries
  if !fields.isValid then fields
  else
    reviewVersion (field "version") ++ reviewName (field "name") ++
      reviewVariables (field "variables") ++ reviewAssertions room (field "assertions") ++
      reviewRules (field "extract")

/-- Whether a suite is accepted: the review of its entries can be made and finds no error. -/
def isAccepted (room : Nat) (entries : List (Datum × Datum)) : Bool :=
  Datum.keysAreWritable entries && (review room entries).isValid

end Suite

end Assay
