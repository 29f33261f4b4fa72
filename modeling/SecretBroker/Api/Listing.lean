import SecretBroker.Api.Grant
import SecretBroker.Http.Request
import SecretBroker.Name

/-!
Looking a secret up in the listing of all entries: the first entry of exactly the name counts,
whatever value it has.
-/

namespace SecretBroker.Api

/-- The call for the listing; there is none for a token that cannot stand in a header. -/
def listingCall? (baseUrl : String) (token : Secret) : Option Call :=
  let authorization := "Bearer " ++ token.reveal
  if (Http.HeaderValue.ofText? authorization).isNone then none
  else some {
    method := "GET"
    url := baseUrl ++ "/api/ciphers"
    headers := [("accept", "*/*"), ("authorization", authorization),
      ("content-type", "application/json"), ("device-type", deviceType)]
    body := "" }

/-- Whether the vault has turned the token away. -/
def rejectsToken : Delivery → Bool
  | .answer status _ => status == 401
  | .none _ => false

/-- The entries in an answer. -/
def listed : Delivery → Answer (List Entry)
  | .none fault => .error fault.error
  | .answer status body =>
    if status ≠ 200 then .error (.vaultStatus status)
    else
      match (body.bind Json.readBytes).bind Entry.listOfJson with
      | some entries => .ok entries
      | none => .error (.invalidResponse "cipher list is not valid JSON")

def valueNamed (name : String) (entries : List Entry) : Answer Secret :=
  match entries.find? (·.nameOrEmpty = name) with
  | none => .error (.notFound name)
  | some entry =>
    match entry.listedValue with
    | some value => .ok ⟨value⟩
    | none => .error (.noValue name)

/-- What a lookup comes to once the listing is there. -/
def found (name : String) (delivery : Delivery) : Answer Secret := listed delivery >>= valueNamed name

end SecretBroker.Api
