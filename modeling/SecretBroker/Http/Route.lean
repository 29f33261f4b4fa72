import SecretBroker.Http.Request
import SecretBroker.Text.Percent

/-!
The routes of the service, and which methods each of them serves. The rest of a path after
`/secret/`, still percent escaped, names a secret.
-/

namespace SecretBroker.Http

inductive Route where
  | health
  | metrics
  | unnamedSecret
  | secret (escaped : String)
  | refresh
  deriving DecidableEq, Repr

namespace Route

def secretPath : String := "/secret/"

/-- The route of a path; the monitoring page can be switched off. -/
def ofPath? (withMetrics : Bool) (path : String) : Option Route :=
  if path = "/health" then some .health
  else if path = "/metrics" && withMetrics then some .metrics
  else if path = "/refresh" then some .refresh
  else if path = secretPath then some .unnamedSecret
  else if secretPath.toList.isPrefixOf path.toList then
    some (.secret (String.ofList (path.toList.drop secretPath.toList.length)))
  else none

/-- How counters label the route. -/
def pattern : Route → String
  | .health => "/health"
  | .metrics => "/metrics"
  | .unnamedSecret => "/secret/"
  | .secret _ => "/secret/\x7b*name\x7d"
  | .refresh => "/refresh"

/-- Whether the client has to be allowed and to know the key. -/
def isProtected : Route → Bool
  | .health | .metrics => false
  | .unnamedSecret | .secret _ | .refresh => true

def methods : Route → List String
  | .refresh => ["POST"]
  | .health | .metrics | .unnamedSecret | .secret _ => ["GET", "HEAD"]

def serves (route : Route) (method : String) : Bool := route.methods.contains method

def allow (route : Route) : String := ",".intercalate route.methods

/-- The name that an escaped one stands for, if it is text. -/
def unescape (escaped : String) : Option String :=
  Text.decodeStrict (Text.percentDecode (Text.utf8 escaped))

end Route
end SecretBroker.Http
