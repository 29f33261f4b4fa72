import SecretBroker.Http.Access
import SecretBroker.Http.Coding
import SecretBroker.Http.Origin
import SecretBroker.Http.Route
import SecretBroker.Name
import SecretBroker.RateLimit
import SecretBroker.Resolver

/-!
The service: every request passes the rate limiter, a protected one also the allowlist and the
key, and only then is the resolver touched. A request that waits for the vault is taken up again
when the vault has answered, or given up when its time is over.
-/

namespace SecretBroker.Http

structure Policy where
  apiKey : Secret
  trustForwarded : Bool
  /-- Whether callers learn the details of failures on the vault's side. -/
  showDetail : Bool
  origins : Origins
  timeout : Span
  withMetrics : Bool
  deriving DecidableEq

structure Service where
  policy : Policy
  limiter : RateLimit.Limiter Float
  allowlist : Allowlist
  resolver : Resolver

/-- How far a request has come: it has its answer, or it waits for the vault. -/
inductive Progress where
  | answered (response : Response)
  | fetching (lookup : Lookup)
  | syncing

namespace Policy

def ofSettings (settings : Settings) : Policy where
  apiKey := settings.security.apiKey
  trustForwarded := settings.security.trustForwarded
  showDetail := !settings.server.environment.isProduction
  origins := .ofList settings.security.corsOrigins
  timeout := settings.server.requestTimeout
  withMetrics := settings.observability.metrics

def route? (policy : Policy) (request : Request) : Option Route :=
  Route.ofPath? policy.withMetrics request.target.path

end Policy

def health : Response := .json 200 [("status", "ok"), ("service", serviceName)]

def refreshed : Response :=
  .json 200 [("status", "ok"), ("message", "cache cleared successfully")]

def secretFound (name : String) (value : Secret) : Response :=
  .json 200 [("name", name), ("value", value.reveal)]

def plainText (status : Nat) (body : String) : Response :=
  ⟨status, [("content-type", "text/plain; charset=utf-8")], body⟩

def monitoringPage (tally : Tally) : Response := ⟨200, [("content-type", pageType)], tally.page⟩

def emptyBody (status : Nat) : Response := ⟨status, [], ""⟩

/-- The answer where handling a request broke down. -/
def brokenDown : Response := (Refusal.internal "Internal Server Error").response

namespace Response

def protection : List (String × String) :=
  [("x-content-type-options", "nosniff"), ("x-frame-options", "DENY"),
    ("referrer-policy", "no-referrer")]

/-- The last touches on a known route: which methods it serves, where the method is not one of
them, and the body's size, unless compression hides it. Answers to HEAD lose their body. -/
def fit (response : Response) (route : Option Route) (method : String) : Response :=
  match route with
  | none => response
  | some route =>
    let allowing := if route.serves method then response else response.addHeader "allow" route.allow
    let sized :=
      if allowing.hasHeader "content-encoding" then allowing
      else allowing.addHeader "content-length" (toString response.body.utf8ByteSize)
    if method = "HEAD" then { sized with body := "" } else sized

/-- What every response gets on its way out that did not come from a breakdown. -/
def dress (response : Response) (policy : Policy) (request : Request) : Response :=
  let out := response.forOrigin policy.origins request
  { out with headers := out.headers ++ protection }.fit (policy.route? request) request.method

end Response

namespace Service

def ofSettings (settings : Settings) (resolver : Resolver) (allowlist : Allowlist) : Service where
  policy := .ofSettings settings
  limiter := .new (.perMinute settings.security.ratePerMinute)
  allowlist := allowlist
  resolver := resolver

def count (service : Service) (counter : Counter) : Service :=
  { service with resolver := service.resolver.count [counter] }

/-- Counts a response and sends it out. -/
def reply (service : Service) (request : Request) (response : Response) : Service × Response :=
  let route := (service.policy.route? request).elim "unmatched" Route.pattern
  (service.count (.request request.method route response.status),
    (response.encode request).dress service.policy request)

def refuse (service : Service) (request : Request) (gate : Gate) (refusal : Refusal) :
    Service × Progress :=
  let (service, response) := (service.count (.rejection gate)).reply request refusal.response
  (service, .answered response)

def answer (service : Service) (request : Request) (response : Response) : Service × Progress :=
  let (service, response) := service.reply request response
  (service, .answered response)

/-- What a caller gets for a lookup that has its answer. -/
def lookupResponse (policy : Policy) (name : String) : Answer Secret → Response
  | .ok value => secretFound name value
  | .error error => (Refusal.ofVaultError error policy.showDetail).response

/-- A request for a secret: its name is checked before the resolver sees it. -/
def lookup (service : Service) (request : Request) (escaped : String) (now : Instant) :
    Service × Progress :=
  match Route.unescape escaped with
  | none => service.answer request (plainText 400 "Invalid URL: Invalid UTF-8 in \x60name\x60")
  | some name =>
    if !PathName.isValid name then
      service.answer request (Refusal.badRequest "invalid secret name format").response
    else
      let (resolver, resolving) := service.resolver.begin name now
      let service := { service with resolver }
      match resolving with
      | .answered answer => service.answer request (lookupResponse service.policy name answer)
      | .fetching lookup => (service, .fetching lookup)

/-- A request that has passed all gates. -/
def handle (service : Service) (request : Request) (route : Route) (now : Instant) :
    Service × Progress :=
  if !route.serves request.method then service.answer request (emptyBody 405)
  else
    match route with
    | .health => service.answer request health
    | .metrics => service.answer request (monitoringPage service.resolver.tally)
    | .unnamedSecret =>
      service.answer request (Refusal.badRequest "secret name is required").response
    | .secret escaped => service.lookup request escaped now
    | .refresh => ({ service with resolver := service.resolver.invalidate.1 }, .syncing)

/-- A request arrives. -/
def accept (service : Service) (request : Request) (now : Instant) : Service × Progress :=
  if request.isPreflight then (service, .answered (preflightAnswer.dress service.policy request))
  else
    let key := request.clientKey service.policy.trustForwarded
    let (limiter, verdict) := service.limiter.check key now
    let service := { service with limiter }
    match verdict with
    | .refused seconds => service.refuse request .rateLimit (.tooManyRequests seconds)
    | .granted =>
      match service.policy.route? request with
      | none => service.answer request (emptyBody 404)
      | some route =>
        match if route.isProtected then
            accessFault? service.allowlist service.policy.apiKey service.policy.trustForwarded request
          else none with
        | some (gate, refusal) => service.refuse request gate refusal
        | none => service.handle request route now

/-- Handling broke down without an answer. -/
def breakDown (service : Service) (request : Request) : Response :=
  brokenDown.fit (service.policy.route? request) request.method

/-- The vault has answered the lookup of a request. -/
def finishLookup (service : Service) (request : Request) (lookup : Lookup)
    (answer : Answer Secret) (now : Instant) : Service × Response :=
  let (resolver, settled) := service.resolver.finish lookup answer now
  let service := { service with resolver }
  match settled with
  | some answer => service.reply request (lookupResponse service.policy lookup.name answer)
  | none => (service, service.breakDown request)

/-- The vault has answered the sync of a refresh, which is no failure whatever it says. -/
def finishSync (service : Service) (request : Request) : Service × Response :=
  service.reply request refreshed

/-- The time for a request is over; whatever it was doing is given up, and it is not counted. -/
def giveUp (service : Service) (request : Request) : Response :=
  (emptyBody 408).dress service.policy request

end Service
end SecretBroker.Http
