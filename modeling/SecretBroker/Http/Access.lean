import SecretBroker.Allowlist
import SecretBroker.Counter
import SecretBroker.Http.Client
import SecretBroker.Http.Response

/-!
Who may ask for secrets: a client that is on the allowlist and shows the key. The key comes
after the scheme word and one space.
-/

namespace SecretBroker.Http

inductive KeyFault where
  | missing
  | form
  | wrong
  deriving DecidableEq, Repr

def KeyFault.reason : KeyFault → String
  | .missing => "missing authorization header"
  | .form => "invalid authorization header format"
  | .wrong => "invalid api key"

/-- A text before and after its first space. -/
def splitAtSpace? (text : String) : Option (String × String) :=
  let before := text.toList.takeWhile (· ≠ ' ')
  match text.toList.drop before.length with
  | _ :: after => some (String.ofList before, String.ofList after)
  | [] => none

def authorizationScheme : String := "bearer"

/-- What is wrong with an authorization header, held against the key. -/
def keyFault? (key : Secret) : Option HeaderValue → Option KeyFault
  | none | some [] => some .missing
  | some value =>
    match value.text?.bind splitAtSpace? with
    | none => some .form
    | some (scheme, shown) =>
      if !Text.eqIgnoringCase scheme authorizationScheme then some .form
      else if Text.utf8 shown = Text.utf8 key.reveal then none
      else some .wrong

/-- Why a request may not ask for secrets, and at which gate it fails. -/
def accessFault? (allowlist : Allowlist) (key : Secret) (trustForwarded : Bool)
    (request : Request) : Option (Gate × Refusal) :=
  if !allowlist.admitsClient (request.client trustForwarded) then
    some (.allowlist, .forbidden "access denied: IP not whitelisted")
  else
    (keyFault? key (request.header? "authorization")).map fun fault =>
      (.apiKey, .unauthorized fault.reason)

end SecretBroker.Http
