import SecretBroker.Cache
import SecretBroker.Settings
import SecretBroker.VaultError

/-!
Counters of the service. A tally is the record of all increments; what a counter stands at is
how often the tally holds it.
-/

namespace SecretBroker

/-- Which gate turned a request away. -/
inductive Gate where
  | rateLimit
  | allowlist
  | apiKey
  deriving DecidableEq, Repr

def Gate.label : Gate → String
  | .rateLimit => "rate_limit"
  | .allowlist => "ip_allowlist"
  | .apiKey => "auth"

inductive Counter where
  | cacheHit
  | cacheMiss
  /-- A lookup that the vault answered, with the class of its failure. -/
  | lookup (failure : Option VaultError.Kind)
  | tokenExchange (granted : Bool)
  | request (method route : String) (status : Nat)
  | rejection (gate : Gate)
  deriving DecidableEq, Repr

namespace Counter

def name : Counter → String
  | .cacheHit => "secret_cache_hits_total"
  | .cacheMiss => "secret_cache_misses_total"
  | .lookup _ => "secret_upstream_requests_total"
  | .tokenExchange _ => "vault_token_refreshes_total"
  | .request _ _ _ => "http_requests_total"
  | .rejection _ => "http_requests_rejected_total"

def description : Counter → String
  | .cacheHit => "Secret lookups served from cache"
  | .cacheMiss => "Secret lookups that missed the cache or found an expired entry"
  | .lookup _ => "Lookups sent to the vault, labelled by outcome"
  | .tokenExchange _ => "Client-credentials exchanges, labelled by outcome"
  | .request _ _ _ => "HTTP requests by route and status"
  | .rejection _ => "Requests rejected by authentication, allowlist or rate limit"

def labels : Counter → List (String × String)
  | .cacheHit | .cacheMiss => []
  | .lookup failure => [("outcome", failure.elim "ok" VaultError.Kind.label)]
  | .tokenExchange granted => [("outcome", if granted then "ok" else "rejected")]
  | .request method route status =>
    [("method", method), ("route", route), ("status", toString status)]
  | .rejection gate => [("reason", gate.label)]

def labelText (label : String × String) : String := label.1 ++ "=\"" ++ label.2 ++ "\""

/-- The counter as one sample line names it; the service's own label leads. -/
def text (counter : Counter) : String :=
  let shown := (("service", serviceName) :: counter.labels).map labelText
  counter.name ++ "\x7b" ++ String.intercalate "," shown ++ "\x7d"

def comments (counter : Counter) : List String :=
  ["# HELP " ++ counter.name ++ " " ++ counter.description,
   "# TYPE " ++ counter.name ++ " counter"]

end Counter

/-- What a read of the cache counts. -/
def Counter.ofReading : Cache.Reading → List Counter
  | .hit _ => [.cacheHit]
  | .miss => [.cacheMiss]
  | .off => []

abbrev Tally := List Counter

namespace Tally

def add (counter : Counter) (tally : Tally) : Tally := counter :: tally

/-- What the counters of a name stand at together. -/
def total (name : String) (tally : Tally) : Nat := tally.countP (·.name = name)

@[simp] theorem total_nil (name : String) : total name [] = 0 := rfl

@[simp] theorem total_cons (name : String) (counter : Counter) (tally : Tally) :
    total name (counter :: tally) = total name tally + if counter.name = name then 1 else 0 := by
  simp [total, List.countP_cons]

theorem total_append (name : String) (later earlier : Tally) :
    total name (later ++ earlier) = total name later + total name earlier :=
  List.countP_append

/-- Every counter that was incremented, with its number of increments. -/
def totals (tally : Tally) : List (Counter × Nat) :=
  tally.eraseDups.map fun counter => (counter, tally.count counter)

/-- The comment lines of the incremented counters, in order and each once. -/
def comments (tally : Tally) : List String :=
  ((tally.flatMap Counter.comments).eraseDups).mergeSort (· ≤ ·)

/-- The page that monitoring reads. -/
def page (tally : Tally) : String :=
  let samples := tally.totals.map fun (counter, total) => counter.text ++ " " ++ toString total
  String.join ((tally.comments ++ samples).map (· ++ "\n"))

end Tally
end SecretBroker
