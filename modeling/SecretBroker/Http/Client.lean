import SecretBroker.Http.Request
import SecretBroker.Text.Blank

/-!
Who sent a request. Behind a trusted proxy the client is the first hop that the proxy names.
-/

namespace SecretBroker.Http

/-- The list of hops as text, if the request has one that can be read. -/
def Request.forwarded? (request : Request) : Option String :=
  (request.header? "x-forwarded-for").bind HeaderValue.text?

/-- The first hop, up to the first comma. -/
def firstHop (hops : String) : String :=
  Text.trim (String.ofList (hops.toList.takeWhile (· ≠ ',')))

/-- The client's address. A hop that is no address hides the client; where no hops can be read,
or they are not trusted, the client is the peer. -/
def Request.client (request : Request) (trustForwarded : Bool) : Option Net.Address :=
  match if trustForwarded then request.forwarded? else none with
  | some hops => Net.Address.read (firstHop hops)
  | none => request.peer

/-- The name under which the rate limiter knows a client. -/
def Request.clientKey (request : Request) (trustForwarded : Bool) : String :=
  (request.client trustForwarded).elim "unknown" Net.Address.text

end SecretBroker.Http
