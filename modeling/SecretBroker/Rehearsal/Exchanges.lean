import SecretBroker.Api.Desk
import SecretBroker.Api.Listing
import SecretBroker.Rehearsal.Peer
import SecretBroker.Resolver

/-!
Rehearsal of lookups through the vault's web service, one after another, and of callers that
come for a token together.
-/

namespace SecretBroker.Rehearsal

open SecretBroker.Api

structure Exchanges where
  now : Instant
  peer : Peer
  baseUrl : String
  credentials : Credentials
  timeout : Span
  desk : Desk
  resolver : Resolver

namespace Exchanges

/-- How long a call to the vault may take, unless something else is asked for. -/
def callTimeout : Span := .ofSeconds 30

def start (peer : Peer) (baseUrl : String) (credentials : Credentials) (timeout ttl : Span) :
    Exchanges :=
  ⟨0, peer, Text.dropTrailing '/' baseUrl, credentials, timeout, .empty, .start ttl 0⟩

def moveTo (run : Exchanges) (now : Instant) : Exchanges :=
  { run with now, resolver := run.resolver.sweepUpTo now }

def elapse (run : Exchanges) (span : Span) : Exchanges := run.moveTo (run.now + span.total)

def call (run : Exchanges) (call : Call) : Exchanges × Delivery :=
  let (peer, delivery, now) := run.peer.deliver call run.timeout run.now
  ({ run with peer }.moveTo now, delivery)

/-- The caller that has the turn gets its token. -/
def serveHolder (run : Exchanges) (caller : Nat) : Exchanges × Option (Answer Secret) :=
  match run.desk.proceed caller run.now with
  | (desk, .served secret) => ({ run with desk }, some (.ok secret))
  | (desk, .exchange) =>
    let (run, delivery) := { run with desk }.call (exchangeCall run.baseUrl run.credentials)
    let run := { run with resolver := run.resolver.count (Grant.counters delivery) }
    let (desk, settled) := run.desk.settle caller (Grant.ofDelivery delivery)
    ({ run with desk }, settled)

/-- Callers come together, and those that are not served at once take their turns. -/
def tokens (run : Exchanges) (count : Nat) : Exchanges × List (Option (Answer Secret)) :=
  let arrive := fun (state : Exchanges × List (Nat × Option Secret)) (caller : Nat) =>
    let (desk, served) := state.1.desk.arrive caller state.1.now
    ({ state.1 with desk }, state.2 ++ [(caller, served)])
  let settle := fun (state : Exchanges × List (Option (Answer Secret)))
      (arrived : Nat × Option Secret) =>
    match arrived.2 with
    | some secret => (state.1, state.2 ++ [some (.ok secret)])
    | none =>
      let (run, settled) := state.1.serveHolder arrived.1
      (run, state.2 ++ [settled])
  let (run, arrived) := (List.range count).foldl arrive (run, [])
  arrived.foldl settle (run, [])

def token (run : Exchanges) : Exchanges × Option (Answer Secret) :=
  let (run, settled) := run.tokens 1
  (run, settled.head?.join)

def invalidateToken (run : Exchanges) : Exchanges := { run with desk := run.desk.invalidate }

def list (run : Exchanges) (token : Secret) : Exchanges × Delivery :=
  match listingCall? run.baseUrl token with
  | none => (run, .none .failed)
  | some call =>
    let (run, delivery) := run.call call
    (if rejectsToken delivery then run.invalidateToken else run, delivery)

def fetch (run : Exchanges) (name : String) : Exchanges × Option (Answer Secret) :=
  match LookupName.fault? name with
  | some fault => (run, some (.error fault.error))
  | none =>
    match run.token with
    | (run, some (.ok token)) =>
      let (run, delivery) := run.list token
      (run, some (found name delivery))
    | (run, settled) => (run, settled)

def resolve (run : Exchanges) (name : String) : Exchanges × Option (Answer Secret) :=
  let (resolver, resolving) := run.resolver.begin name run.now
  let run := { run with resolver }
  match resolving with
  | .answered answer => (run, some answer)
  | .fetching lookup =>
    match run.fetch name with
    | (run, none) => (run, none)
    | (run, some answer) =>
      let (resolver, settled) := run.resolver.finish lookup answer run.now
      ({ run with resolver }, settled)

def invalidateCache (run : Exchanges) : Exchanges × Nat :=
  let (resolver, removed) := run.resolver.invalidate
  ({ run with resolver }, removed)

end Exchanges
end SecretBroker.Rehearsal
