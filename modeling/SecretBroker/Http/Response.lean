import SecretBroker.Json.Writer
import SecretBroker.Text.Fold
import SecretBroker.VaultError

/-!
Responses to callers, and the failures that are answered with one. A failure's body names its
class and says what the caller may know about it.
-/

namespace SecretBroker.Http

structure Response where
  status : Nat
  headers : List (String × String)
  body : String
  deriving DecidableEq, Repr

namespace Response

def json (status : Nat) (members : List (String × String)) : Response :=
  ⟨status, [("content-type", "application/json")], Json.writeObject members⟩

def header? (response : Response) (name : String) : Option String :=
  (response.headers.find? (·.1 = name)).map (·.2)

def hasHeader (response : Response) (name : String) : Bool := response.headers.any (·.1 = name)

def addHeader (name value : String) (response : Response) : Response :=
  { response with headers := response.headers ++ [(name, value)] }

def dropHeader (name : String) (response : Response) : Response :=
  { response with headers := response.headers.filter (·.1 ≠ name) }

end Response

/-- Why a request is not served. -/
inductive Refusal where
  | badRequest (message : String)
  | notFound (message : String)
  | unauthorized (message : String)
  | forbidden (message : String)
  | tooManyRequests (retryAfter : Nat)
  | badGateway (message : String)
  | internal (message : String)
  deriving DecidableEq, Repr

namespace Refusal

def status : Refusal → Nat
  | .badRequest _ => 400
  | .notFound _ => 404
  | .unauthorized _ => 401
  | .forbidden _ => 403
  | .tooManyRequests _ => 429
  | .badGateway _ => 502
  | .internal _ => 500

def label : Refusal → String
  | .badRequest _ => "bad_request"
  | .notFound _ => "not_found"
  | .unauthorized _ => "unauthorized"
  | .forbidden _ => "forbidden"
  | .tooManyRequests _ => "too_many_requests"
  | .badGateway _ => "bad_gateway"
  | .internal _ => "internal_error"

def message : Refusal → String
  | .badRequest message | .notFound message | .unauthorized message | .forbidden message
  | .badGateway message | .internal message => message
  | .tooManyRequests _ => "too many requests, please slow down"

def response (refusal : Refusal) : Response :=
  let answer := Response.json refusal.status
    [("error", refusal.label), ("message", refusal.message)]
  match refusal with
  | .tooManyRequests seconds => answer.addHeader "retry-after" (toString seconds)
  | _ => answer

/-- What a caller learns of a failed lookup. A missing entry and an entry without a value look
alike; a failure on the vault's side is described only where details may be shown. -/
def ofVaultError (error : VaultError) (showDetail : Bool) : Refusal :=
  match error.kind with
  | .invalidInput => .badRequest "invalid secret name format"
  | .notFound | .noValue => .notFound "secret not found"
  | .authFailure | .transport | .vaultStatus | .invalidResponse =>
    .badGateway (if showDetail then error.message else "upstream vault unavailable")

end Refusal
end SecretBroker.Http
