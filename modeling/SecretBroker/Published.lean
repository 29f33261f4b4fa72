import SecretBroker.Allowlist
import SecretBroker.Api.Call
import SecretBroker.Entry.Decode
import SecretBroker.ServiceError
import SecretBroker.Span

/-!
The address ranges of GitHub Actions runners, as GitHub publishes them. A refresh that fails
leaves the ranges that are known.
-/

namespace SecretBroker.Published

open SecretBroker.Api

def url : String := "https://api.github.com/meta"

def callTimeout : Span := Span.ofSeconds 10

def call : Call := ⟨"GET", url, [("accept", "application/json")], ""⟩

/-- The texts under `actions`; there are none if that member is missing. -/
def ofJson (json : Json) : Option (List String) := do
  match ← Json.slots [["actions"]] json with
  | [some actions] => Json.list? Json.string? actions
  | [none] => some []
  | _ => none

/-- The ranges in an answer. Texts that are no ranges are passed over. -/
def ranges : Delivery → Except ServiceError (List Net.Network)
  | .none _ => .error (.transport "GitHub meta request failed")
  | .answer status body =>
    if status < 200 || 299 < status then
      .error (.transport ("GitHub meta returned status " ++ toString status))
    else
      match (body.bind Json.readBytes).bind ofJson with
      | some texts => .ok (Net.Network.readSome texts)
      | none => .error (.transport "GitHub meta response invalid")

/-- A refresh; also tells how many ranges it has loaded. -/
def refresh (list : Allowlist) (delivery : Delivery) : Allowlist × Except ServiceError Nat :=
  match ranges delivery with
  | .ok found => (list.replacePublished found, .ok found.length)
  | .error error => (list, .error error)

end SecretBroker.Published
