import SecretBroker.Http.Service

/-!
Many requests at once. Each is answered when it arrives or waits, for the vault's answer to its
lookup or for the vault to have synced. While it waits its handling can break down, its time can run
out and its caller can leave; others arrive, published ranges are replaced, the cache is swept, and
time passes. The answers are recorded, the latest first, with the way that each of them came about.
-/

namespace SecretBroker.Http

/-- What a request waits for. -/
inductive Errand where
  | lookup (lookup : Lookup)
  | sync

structure Waiting where
  caller : Nat
  request : Request
  since : Instant
  errand : Errand

/-- How an answer came about. -/
inductive Ending where
  | preflight
  | replied
  | overdue
  | brokeDown
  deriving DecidableEq

structure Answered where
  caller : Nat
  request : Request
  ending : Ending
  response : Response

structure RequestCalls where
  now : Instant
  service : Service
  waiting : List Waiting
  /-- The number of requests that arrived, and the next caller. -/
  callers : Nat
  answers : List Answered

namespace RequestCalls

inductive Act where
  | arrive (request : Request)
  /-- The vault answers the lookup of a caller. -/
  | answer (caller : Nat) (answer : Answer Secret)
  /-- The vault has synced for a caller, or failed to. -/
  | synced (caller : Nat)
  | panic (caller : Nat)
  | expire (caller : Nat)
  /-- The connection of a caller is gone. -/
  | leave (caller : Nat)
  | publish (ranges : List Net.Network)
  /-- What has expired at an instant is dropped. -/
  | sweep (moment : Instant)
  | elapse (span : Nat)

def start (service : Service) (now : Instant) : RequestCalls := ⟨now, service, [], 0, []⟩

def withService (calls : RequestCalls) (service : Service) : RequestCalls := { calls with service }

def withWaiting (calls : RequestCalls) (waiting : List Waiting) : RequestCalls :=
  { calls with waiting }

def note (calls : RequestCalls) (answered : Answered) : RequestCalls :=
  { calls with answers := answered :: calls.answers }

def waiting? (calls : RequestCalls) (caller : Nat) : Option Waiting :=
  calls.waiting.find? (·.caller = caller)

def release (calls : RequestCalls) (caller : Nat) : RequestCalls :=
  calls.withWaiting (calls.waiting.filter (·.caller ≠ caller))

/-- A request that waited gets its answer. -/
def conclude (calls : RequestCalls) (waiting : Waiting) (ending : Ending) (response : Response) :
    RequestCalls :=
  (calls.release waiting.caller).note ⟨waiting.caller, waiting.request, ending, response⟩

def arrive (calls : RequestCalls) (request : Request) : RequestCalls :=
  let caller := calls.callers
  let (service, progress) := calls.service.accept request calls.now
  let arrived : RequestCalls := { calls with service, callers := caller + 1 }
  match progress with
  | .answered response =>
    arrived.note ⟨caller, request, if request.isPreflight then .preflight else .replied, response⟩
  | .fetching lookup =>
    arrived.withWaiting (⟨caller, request, calls.now, .lookup lookup⟩ :: calls.waiting)
  | .syncing => arrived.withWaiting (⟨caller, request, calls.now, .sync⟩ :: calls.waiting)

/-- The vault answers a lookup. The request breaks down if the value cannot be written back. -/
def settle (calls : RequestCalls) (waiting : Waiting) (lookup : Lookup) (answer : Answer Secret) :
    RequestCalls :=
  let settled := (calls.service.resolver.finish lookup answer calls.now).2
  let (service, response) := calls.service.finishLookup waiting.request lookup answer calls.now
  (calls.withService service).conclude waiting (if settled.isSome then .replied else .brokeDown)
    response

def synced (calls : RequestCalls) (waiting : Waiting) : RequestCalls :=
  let (service, response) := calls.service.finishSync waiting.request
  (calls.withService service).conclude waiting .replied response

def panic (calls : RequestCalls) (waiting : Waiting) : RequestCalls :=
  calls.conclude waiting .brokeDown (calls.service.breakDown waiting.request)

/-- The time for a request is over, if it is. -/
def expire (calls : RequestCalls) (waiting : Waiting) : RequestCalls :=
  if waiting.since + calls.service.policy.timeout.total ≤ calls.now then
    calls.conclude waiting .overdue (calls.service.giveUp waiting.request)
  else calls

/-- An act on the request of a caller, if it waits. -/
def onWaiting (calls : RequestCalls) (caller : Nat) (act : Waiting → RequestCalls) :
    RequestCalls :=
  (calls.waiting? caller).elim calls act

/-- One act; one that cannot happen changes nothing. -/
def step (calls : RequestCalls) : Act → RequestCalls
  | .arrive request => calls.arrive request
  | .answer caller answer => calls.onWaiting caller fun waiting =>
    match waiting.errand with
    | .lookup lookup => calls.settle waiting lookup answer
    | .sync => calls
  | .synced caller => calls.onWaiting caller fun waiting =>
    match waiting.errand with
    | .lookup _ => calls
    | .sync => calls.synced waiting
  | .panic caller => calls.onWaiting caller calls.panic
  | .expire caller => calls.onWaiting caller calls.expire
  | .leave caller => calls.release caller
  | .publish ranges =>
    calls.withService
      { calls.service with allowlist := calls.service.allowlist.replacePublished ranges }
  | .sweep moment =>
    calls.withService { calls.service with
      resolver := calls.service.resolver.withCache (calls.service.resolver.cache.sweep moment) }
  | .elapse span => { calls with now := calls.now + span }

/-- Every run of a service, from an instant on. -/
def run (service : Service) (now : Instant) (acts : List Act) : RequestCalls :=
  acts.foldl step (start service now)

end RequestCalls
end SecretBroker.Http
