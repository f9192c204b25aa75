import Assay.Response
import Assay.Review
import Assay.Suite.Reader

/-! # Payloads

The shapes of assertion lists and of response descriptions. In the strict shape every field is
there with its exact type. A response may also be described loosely: its headers may then be
scalars, and its body any datum that has JSON text, for the writing of which the stack has room.
-/

namespace Assay

/-- Whether a datum is an integer of some number of bits. -/
def Datum.isIntOf (bits : Nat) (datum : Datum) : Bool :=
  datum.int?.any fun value =>
    -(Nat.pow 2 (bits - 1) : Int) ≤ value && value < (Nat.pow 2 (bits - 1) : Int)

namespace Payload

/-- How exactly a response is to be described. A loose description may have data in places where a
strict one has texts, and these are tried to be written with some room on the stack. -/
inductive Rigour where
  | strict
  | loose (room : Nat)

/-- Whether a datum may stand as the value of a header. -/
def Rigour.admitsHeader : Rigour → Datum → Bool
  | strict, value => value.text?.isSome
  | loose _, value => value.isScalar

def textFields : List String := ["id", "type", "property", "operator", "expected"]

def reviewAssertion (place : String) (entry : Datum) : Review :=
  match entry.entries? with
  | none => .error place "Assertion must be an object" entry
  | some fields =>
    let field := Datum.fieldOf fields
    .join (textFields.map fun name =>
        .when (field name).text?.isNone
          (.error s!"{place}.{name}" "Must be a string" (field name))) ++
      .when (field "enabled").bool?.isNone
        (.error s!"{place}.enabled" "Must be a boolean" (field "enabled"))

def reviewAssertions (payload : Datum) : Review :=
  match payload.items? with
  | none => .error "assertions" "Must be a list" (.text payload.kind)
  | some items => .join (items.mapIdx fun index entry =>
      reviewAssertion s!"assertions[{index}]" entry)

def reviewHeader (rigour : Rigour) (name value : Datum) : Review :=
  .when (name.text?.isNone || !rigour.admitsHeader value)
    (.error s!"headers.{name.named}" "Header values must be strings" value)

def reviewHeaders (rigour : Rigour) (headers : Datum) : Review :=
  match headers.entries? with
  | none => .error "headers" "Must be an object" headers
  | some entries => .join (entries.map fun entry => reviewHeader rigour entry.1 entry.2)

def reviewBody (rigour : Rigour) (body : Option Datum) : Review :=
  match rigour, body with
  | _, some (.text _) => .clean
  | .loose room, some value => .when (!value.isJson room)
      (.error "body" "Body must be text or plain JSON data" value
        "Quote dates, timestamps and other special values")
  | .loose _, none =>
    .error "body" "Must be a string" .null "Use a string, or a mapping/list to be sent as JSON"
  | .strict, value => .error "body" "Must be a string" (value.getD .null)

def reviewResponse (rigour : Rigour) (payload : Datum) : Review :=
  match payload.entries? with
  | none => .error "response" "Must be an object" (.text payload.kind)
  | some fields =>
    let field := Datum.fieldOf fields
    .when (!(field "statusCode").isIntOf 32)
        (.error "statusCode" "Must be an integer" (field "statusCode")) ++
      .when (!(field "timingMs").isIntOf 64)
        (.error "timingMs" "Must be an integer (milliseconds)" (field "timingMs")) ++
      reviewHeaders rigour (field "headers") ++
      reviewBody rigour (Datum.fieldOf? fields "body")

end Payload

def Response.ofFields? (fields : List (Datum × Datum)) : Option Response := do
  let field := Datum.fieldOf fields
  return {
    status := ← (field "statusCode").int?
    headers := ← Suite.tableOf? (← (field "headers").entries?)
    body := ← (← Datum.fieldOf? fields "body").rendered?
    timing := ← (field "timingMs").int? }

/-- A response from fields that have passed a loose review, with some room on the stack. The values
of the headers are scalars then, so that only the body may need more room than there is. -/
def Response.parse (room : Nat) (fields : List (Datum × Datum)) :
    Except Datum.Exhausted (Option Response) :=
  if (Datum.fieldOf? fields "body").all (Datum.fits room) then .ok (ofFields? fields)
  else .error ⟨⟩

/-- A response, which may be loosely described, with the review of its fields. The body is written
one call deeper than where the review tries to write it. -/
def Response.ofReviewed (room : Nat) (fields : List (Datum × Datum)) :
    Except Datum.Exhausted (Option Response × Review) :=
  let found := Payload.reviewResponse (.loose (room + 1)) (.map fields)
  if found.isValid then (parse room fields).map fun response => (response, found)
  else .ok (none, found)

/-- Whether the names of the headers can be written. -/
def headersAreWritable (fields : List (Datum × Datum)) : Bool :=
  (Datum.fieldOf fields "headers").entries?.all Datum.keysAreWritable

def Payload.assertions? (payload : Datum) : Option (List Assertion) :=
  if (reviewAssertions payload).isValid then
    payload.items?.bind fun items => items.mapM fun entry => entry.entries?.bind Assertion.ofFields?
  else none

def Payload.response? (payload : Datum) : Option Response :=
  if (reviewResponse .strict payload).isValid then payload.entries?.bind Response.ofFields?
  else none

end Assay
