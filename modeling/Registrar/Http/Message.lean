import Registrar.Http.MediaType
import Registrar.Http.Target
import Registrar.Json.Printer
import Registrar.Json.Reader

/-! # Requests and responses

* `Request.json?`: the JSON value in the body, if the content type says that there is one and the
  body is within the limit.
* `Response.json`: a response with a JSON body.
-/

namespace Registrar.Http
open Text
open Text.Utf8 (Bytes)
set_option autoImplicit false

structure Request where
  method : String
  target : Target
  headers : List (String × String)
  body : Bytes
  deriving DecidableEq, Repr

namespace Request

/-- The first value of a header; names are compared without regard to ASCII case. -/
def header? (r : Request) (name : String) : Option String :=
  (r.headers.find? fun h => h.1.toList.map Char.toLower == name.toList).map (·.2)

def bodyLimit : Nat := 2097152

def hasJsonType (r : Request) : Bool := ((r.header? "content-type").map MediaType.isJson).getD false

def json? (r : Request) : Option Json.Value :=
  if r.hasJsonType && r.body.length ≤ bodyLimit then Json.parse? r.body else none

end Request

structure Response where
  status : Nat
  headers : List (String × String)
  body : Bytes
  deriving DecidableEq, Repr

namespace Response

def empty (status : Nat) : Response := ⟨status, [], []⟩

def json (status : Nat) (name text : String) : Response :=
  ⟨status, [("content-type", "application/json")],
    (Json.Value.object [(.ofString name, .string (.ofString text))]).render⟩

def withLength (r : Response) : Response :=
  let length := String.ofList (Nat.toDigits 10 r.body.length)
  { r with headers := ("content-length", length) :: r.headers }

def withHeaders (hs : List (String × String)) (r : Response) : Response :=
  { r with headers := r.headers ++ hs }

def withoutBody (r : Response) : Response := { r with body := [] }

end Response

end Registrar.Http
