import SecretBroker.Http.Service
import SecretBroker.Rehearsal.Vault

/-!
Rehearsal of requests, one after another. A request whose vault takes as long as the time that
requests have, or longer, is given up when that time is over.
-/

namespace SecretBroker.Rehearsal

open SecretBroker.Http

structure Requests where
  now : Instant
  service : Service
  vault : Vault

namespace Requests

def start (settings : Settings) (connection : Connection) (vault : Vault) : Requests :=
  let allowlist := Allowlist.new settings.security.allowedNetworks settings.security.githubRanges
  ⟨0, .ofSettings settings (.start connection.cacheTtl 0) allowlist, vault⟩

/-- Moves the clock; the sweeper does what has fallen due. -/
def moveTo (run : Requests) (now : Instant) : Requests :=
  { run with
    now
    service := { run.service with resolver := run.service.resolver.sweepUpTo now } }

def elapse (run : Requests) (span : Span) : Requests := run.moveTo (run.now + span.total)

def deadline (run : Requests) : Instant := Instant.wake (run.now + run.service.policy.timeout.total)

/-- The vault works on a lookup while the clock moves on. -/
def await (run : Requests) (request : Request) (lookup : Lookup) : Requests × Response :=
  let (vault, outcome) := run.vault.fetch lookup.name
  let run := { run with vault }
  let due := run.now + outcome.delay.total
  if run.deadline ≤ due then
    let run := run.moveTo run.deadline
    (run, run.service.giveUp request)
  else
    let run := run.moveTo due
    match outcome.answer with
    | none => (run, run.service.breakDown request)
    | some answer =>
      let (service, response) := run.service.finishLookup request lookup answer run.now
      ({ run with service }, response)

def send (run : Requests) (request : Request) : Requests × Response :=
  let (service, progress) := run.service.accept request run.now
  let run := { run with service }
  match progress with
  | .answered response => (run, response)
  | .fetching lookup => run.await request lookup
  | .syncing =>
    let (service, response) := run.service.finishSync request
    ({ run with service, vault := run.vault.sync.1 }, response)

def publish (run : Requests) (ranges : List Net.Network) : Requests :=
  { run with
    service := { run.service with allowlist := run.service.allowlist.replacePublished ranges } }

end Requests
end SecretBroker.Rehearsal
