import Assay.Table
import Assay.Text.Case

/-! # Responses

What came back from a request. Header names are looked up without regard to case; of several
names that differ in case only, the first one counts.
-/

namespace Assay

/-- A response: status code, headers, body text and time in milliseconds. -/
structure Response where
  status : Int
  headers : Table String String
  body : String
  timing : Int
  deriving DecidableEq

/-- The form of a header name in which names are compared. -/
def headerKey (name : String) : List Char := Text.lowercase name.toList

/-- The value of the first header with a given name. -/
def Response.header? (response : Response) (name : String) : Option String :=
  (response.headers.find? fun header => headerKey header.1 = headerKey name).map Prod.snd

def Response.hasHeader (response : Response) (name : String) : Bool :=
  (response.header? name).isSome

end Assay
