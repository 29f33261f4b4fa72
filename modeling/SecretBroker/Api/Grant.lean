import SecretBroker.Api.Call
import SecretBroker.Counter
import SecretBroker.Entry.Decode
import SecretBroker.Text.Form
import SecretBroker.Token

/-!
Exchanging credentials for a token: the call to the vault's identity service, and the grant in
its answer.
-/

namespace SecretBroker.Api

/-- The kind of device that the vault expects of clients that are no browsers. -/
def deviceType : String := "14"

def exchangeFields (credentials : Credentials) : List (String × String) :=
  [("grant_type", "client_credentials"), ("scope", "api"), ("client_id", credentials.clientId),
    ("client_secret", credentials.clientSecret.reveal),
    ("deviceIdentifier", deviceIdentifier credentials.clientId), ("deviceType", deviceType),
    ("deviceName", serviceName)]

def exchangeCall (baseUrl : String) (credentials : Credentials) : Call where
  method := "POST"
  url := baseUrl ++ "/identity/connect/token"
  headers := [("accept", "application/json"), ("content-type", "application/x-www-form-urlencoded")]
  body := Text.formFields (exchangeFields credentials)

structure Grant where
  token : Secret
  lifetime : Span
  deriving DecidableEq

namespace Grant

/-- A grant needs a token and its lifetime in seconds; the token's type may be missing. -/
def ofJson (json : Json) : Option Grant := do
  match ← Json.slots [["access_token"], ["expires_in"], ["token_type"]] json with
  | [some token, some lifetime, type] =>
    let token ← Json.string? token
    let lifetime ← Json.nat64? lifetime
    let _ ← Json.optional Json.string? type
    return ⟨⟨token⟩, .ofSeconds lifetime⟩
  | _ => none

/-- The grant in an answer. A body that broke off is as bad as one that cannot be read. -/
def ofDelivery : Delivery → Answer Grant
  | .none fault => .error fault.error
  | .answer status body =>
    if status ≠ 200 then .error (.authRejected status)
    else
      match (body.bind Json.readBytes).bind ofJson with
      | none => .error (.invalidResponse "token response is not valid JSON")
      | some grant =>
        if grant.token.isEmpty then .error (.invalidResponse "token response has empty access_token")
        else .ok grant

/-- What an exchange counts: a rejection by its status, or a grant. -/
def counters (delivery : Delivery) : List Counter :=
  match delivery, ofDelivery delivery with
  | _, .ok _ => [.tokenExchange true]
  | .answer status _, .error _ => if status ≠ 200 then [.tokenExchange false] else []
  | .none _, .error _ => []

end Grant
end SecretBroker.Api
