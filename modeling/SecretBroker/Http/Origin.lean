import SecretBroker.Http.Request
import SecretBroker.Http.Response

/-!
Requests from pages of other origins. A browser asks beforehand with the method OPTIONS, and any
such request is answered on the spot.
-/

namespace SecretBroker.Http

inductive Origins where
  | any
  | only (values : List HeaderValue)
  deriving DecidableEq, Repr

namespace Origins

/-- Entries that cannot stand in a header are left out; an asterisk admits every origin. -/
def ofList (entries : List String) : Origins :=
  if entries.contains "*" then .any
  else .only ((entries.map Text.utf8).filter fun value => value.all HeaderValue.isByte)

/-- The header that admits the origin of a request. -/
def admission (origins : Origins) (request : Request) : List (String × String) :=
  match origins, request.header? "origin" with
  | .any, _ => [("access-control-allow-origin", "*")]
  | .only values, some origin =>
    if values.contains origin then
      [("access-control-allow-origin", Text.decodeLossy origin)]
    else []
  | .only _, none => []

def varying : String × String :=
  ("vary", "origin, access-control-request-method, access-control-request-headers")

end Origins

def Request.isPreflight (request : Request) : Bool := request.method = "OPTIONS"

def preflightAnswer : Response :=
  ⟨200, [("access-control-allow-methods", "GET,POST"),
    ("access-control-allow-headers", "authorization,content-type")], ""⟩

def Response.forOrigin (response : Response) (origins : Origins) (request : Request) : Response :=
  { response with
    headers := response.headers ++ (Origins.varying :: origins.admission request) }

end SecretBroker.Http
