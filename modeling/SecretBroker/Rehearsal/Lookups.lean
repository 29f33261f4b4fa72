import SecretBroker.Rehearsal.Vault
import SecretBroker.Resolver

/-!
Rehearsal of many lookups at once. A lookup that waits for the vault is settled when its delay
is over; those that are due at the same instant settle in the order in which they began.
-/

namespace SecretBroker.Rehearsal

/-- What a caller gets in the end; nothing if the lookup broke down. -/
abbrev Settled := Option (Answer Secret)

structure Waiting where
  label : String
  due : Instant
  lookup : Lookup
  outcome : Option (Answer Secret)

structure Lookups where
  now : Instant
  resolver : Resolver
  vault : Vault
  /-- In the order in which the lookups began. -/
  waiting : List Waiting
  settled : List (String × Settled)

namespace Lookups

def start (ttl : Span) (vault : Vault) : Lookups := ⟨0, .start ttl 0, vault, [], []⟩

/-- Moves the clock; the sweeper does what has fallen due. -/
def moveTo (run : Lookups) (now : Instant) : Lookups :=
  { run with now, resolver := run.resolver.sweepUpTo now }

def settleOne (run : Lookups) (waiting : Waiting) : Lookups :=
  let run := run.moveTo waiting.due
  match waiting.outcome with
  | none => { run with settled := (waiting.label, none) :: run.settled }
  | some answer =>
    let (resolver, settled) := run.resolver.finish waiting.lookup answer run.now
    { run with resolver, settled := (waiting.label, settled) :: run.settled }

/-- Settles what is due up to an instant, and moves the clock there. -/
def elapseTo (run : Lookups) (now : Instant) : Lookups :=
  let due := (run.waiting.filter (·.due ≤ now)).mergeSort (·.due ≤ ·.due)
  let rest := { run with waiting := run.waiting.filter (now < ·.due) }
  (due.foldl settleOne rest).moveTo now

def elapse (run : Lookups) (span : Span) : Lookups := run.elapseTo (run.now + span.total)

/-- Begins a resolve under a label; it goes on until it waits. -/
def begin (run : Lookups) (label name : String) : Lookups :=
  let (resolver, resolving) := run.resolver.begin name run.now
  let run := { run with resolver }
  match resolving with
  | .answered answer => { run with settled := (label, some answer) :: run.settled }
  | .fetching lookup =>
    let (vault, outcome) := run.vault.fetch name
    let waiting := ⟨label, run.now + outcome.delay.total, lookup, outcome.answer⟩
    let run := { run with vault }
    if outcome.delay.isZero then run.settleOne waiting
    else { run with waiting := run.waiting ++ [waiting] }

/-- Lets time pass until the lookup of a label has settled. -/
def join (run : Lookups) (label : String) : Lookups × Settled :=
  let run :=
    match run.waiting.find? (·.label = label) with
    | some waiting => run.elapseTo waiting.due
    | none => run
  (run, (run.settled.lookup label).join)

/-- Resolves a name and waits for the answer. -/
def resolve (run : Lookups) (name : String) : Lookups × Settled := (run.begin "" name).join ""

def invalidate (run : Lookups) : Lookups × Nat :=
  let (resolver, removed) := run.resolver.invalidate
  ({ run with resolver }, removed)

def sync (run : Lookups) : Lookups × Answer Unit :=
  let (vault, answer) := run.vault.sync
  ({ run with vault }, answer)

def shutdown (run : Lookups) : Lookups := { run with resolver := run.resolver.stop }

end Lookups
end SecretBroker.Rehearsal
