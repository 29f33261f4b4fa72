import SecretBroker.Resolver

/-!
Many resolves at once, with the fetches that never return. Between its look at the cache and the
beginning of its fetch a resolve waits for nothing, and neither does it from the end of its fetch
to its own, so each of the two is one act. While a fetch is in flight its caller can give it up and
its source can panic; others clear and sweep the cache, and time passes. The history records what
happened, the latest first.
-/

namespace SecretBroker

inductive Milestone where
  | called (caller : Nat) (name : String)
  /-- A resolve was answered without a fetch. -/
  | served (caller : Nat) (answer : Answer Secret)
  | begun (caller : Nat)
  /-- A fetch returned. -/
  | fetched (caller : Nat) (answer : Answer Secret)
  /-- The resolve of a fetch that had returned ended, with or without an answer. -/
  | ended (caller : Nat) (answer : Option (Answer Secret))
  | cancelled (caller : Nat)
  | panicked (caller : Nat)

structure ResolveCalls where
  now : Instant
  resolver : Resolver
  /-- The fetches in flight, with their callers. -/
  flying : List (Nat × Lookup)
  /-- The number of resolves that were called, and the next caller. -/
  callers : Nat
  history : List Milestone

namespace ResolveCalls

inductive Act where
  | resolve (name : String)
  /-- The fetch of a caller returns. -/
  | fetch (caller : Nat) (answer : Answer Secret)
  | cancel (caller : Nat)
  | panic (caller : Nat)
  | clear
  /-- What has expired at an instant is dropped. -/
  | sweep (moment : Instant)
  | elapse (span : Nat)

def start (ttl : Span) (now : Instant) : ResolveCalls := ⟨now, .start ttl now, [], 0, []⟩

def cache (calls : ResolveCalls) : Cache := calls.resolver.cache

def tally (calls : ResolveCalls) : Tally := calls.resolver.tally

def note (calls : ResolveCalls) (milestones : List Milestone) : ResolveCalls :=
  { calls with history := milestones ++ calls.history }

def withResolver (calls : ResolveCalls) (resolver : Resolver) : ResolveCalls :=
  { calls with resolver }

def withFlying (calls : ResolveCalls) (flying : List (Nat × Lookup)) : ResolveCalls :=
  { calls with flying }

/-- A resolve is called. It is answered at once, or its fetch begins. -/
def resolve (calls : ResolveCalls) (name : String) : ResolveCalls :=
  let (resolver, resolving) := calls.resolver.begin name calls.now
  let caller := calls.callers
  let called : ResolveCalls := { calls with resolver, callers := caller + 1 }
  match resolving with
  | .answered answer => called.note [.served caller answer, .called caller name]
  | .fetching lookup =>
    (called.withFlying ((caller, lookup) :: calls.flying)).note [.begun caller, .called caller name]

/-- A fetch returns, and its resolve ends. -/
def fetch (calls : ResolveCalls) (flight : Nat × Lookup) (answer : Answer Secret) : ResolveCalls :=
  let (resolver, settled) := calls.resolver.finish flight.2 answer calls.now
  ((calls.withResolver resolver).withFlying (calls.flying.erase flight)).note
    [.ended flight.1 settled, .fetched flight.1 answer]

/-- A fetch is cut short. -/
def cut (calls : ResolveCalls) (flight : Nat × Lookup) (milestone : Milestone) : ResolveCalls :=
  (calls.withFlying (calls.flying.erase flight)).note [milestone]

/-- The fetch of a caller that is in flight. -/
def flight? (calls : ResolveCalls) (caller : Nat) : Option (Nat × Lookup) :=
  calls.flying.find? (·.1 = caller)

/-- One act; one that cannot happen changes nothing. -/
def step (calls : ResolveCalls) : Act → ResolveCalls
  | .resolve name => calls.resolve name
  | .fetch caller answer => (calls.flight? caller).elim calls (calls.fetch · answer)
  | .cancel caller => (calls.flight? caller).elim calls (calls.cut · (.cancelled caller))
  | .panic caller => (calls.flight? caller).elim calls (calls.cut · (.panicked caller))
  | .clear => calls.withResolver calls.resolver.invalidate.1
  | .sweep moment => calls.withResolver (calls.resolver.withCache (calls.cache.sweep moment))
  | .elapse span => { calls with now := calls.now + span }

/-- Every run of a resolver, from an instant on. -/
def run (ttl : Span) (now : Instant) (acts : List Act) : ResolveCalls :=
  acts.foldl step (start ttl now)

end ResolveCalls
end SecretBroker
