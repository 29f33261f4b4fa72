import SecretBroker.Published
import SecretBroker.Rehearsal.Peer

/-!
Rehearsal of the published ranges: single refreshes, and the task that refreshes them at every
interval. A refresh that gets no answer keeps that task busy until its time is over.
-/

namespace SecretBroker.Rehearsal

open SecretBroker.Api

structure RefreshTask where
  interval : Span
  nextTick : Instant
  /-- Until when the task waits for an answer that does not come. -/
  busyUntil : Option Instant
  deriving Repr

structure Ranges where
  now : Instant
  peer : Peer
  allowlist : Allowlist
  task : Option RefreshTask

namespace Ranges

def start (peer : Peer) (fixed : List Net.Network) : Ranges := ⟨0, peer, .new fixed true, none⟩

def call (run : Ranges) : Ranges × Delivery :=
  let (peer, delivery, now) := run.peer.deliver Published.call Published.callTimeout run.now
  ({ run with peer, now }, delivery)

def fetch (run : Ranges) : Ranges × Except ServiceError (List Net.Network) :=
  let (run, delivery) := run.call
  (run, Published.ranges delivery)

def refresh (run : Ranges) : Ranges × Except ServiceError Nat :=
  let (run, delivery) := run.call
  let (allowlist, loaded) := Published.refresh run.allowlist delivery
  ({ run with allowlist }, loaded)

def startTask (run : Ranges) (interval : Span) : Ranges :=
  { run with task := some ⟨interval, run.now + interval.total, none⟩ }

/-- One tick of the task. What the answer takes is the task's own time. -/
def tick (run : Ranges) (task : RefreshTask) (at_ : Instant) : Ranges :=
  let (after, delivery) := { run with now := at_ }.call
  let busyUntil := if after.now = at_ then none else some after.now
  { after with
    now := at_
    allowlist := (Published.refresh run.allowlist delivery).1
    task := some { task with nextTick := task.nextTick + task.interval.total, busyUntil } }

/-- What the task does up to an instant, in at most the given number of ticks. -/
def work (limit : Instant) : Nat → Ranges → Ranges
  | 0, run => run
  | left + 1, run =>
    match run.task with
    | none => run
    | some task =>
      let next := Nat.max (Nat.max run.now task.nextTick) (task.busyUntil.getD 0)
      if next ≤ limit then work limit left (run.tick task next) else run

/-- A number of intervals pass. -/
def elapseIntervals (run : Ranges) (count : Nat) : Ranges :=
  match run.task with
  | none => run
  | some task =>
    let limit := run.now + count * task.interval.total
    { work limit (count + 1) run with now := limit }

/-- Ends the task, once an answer that it waits for has failed to come. -/
def stopTask (run : Ranges) : Ranges :=
  let busyUntil := (run.task.bind RefreshTask.busyUntil).getD 0
  { run with task := none, now := Nat.max run.now busyUntil }

end Ranges
end SecretBroker.Rehearsal
