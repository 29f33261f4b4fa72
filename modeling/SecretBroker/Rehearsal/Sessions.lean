import SecretBroker.Cli.Bootstrap
import SecretBroker.Cli.Lookup
import SecretBroker.Rehearsal.Client
import SecretBroker.Resolver
import SecretBroker.Turns

/-!
Rehearsal of everything that talks to the command line client at once: lookups, syncs, sequences
that open a session, and the task that opens a new one from time to time. Sequences that open a
session take turns. What is ready goes on first; then the clock moves to what is due next.
-/

namespace SecretBroker.Rehearsal

/-- How a task ends. -/
inductive Upshot where
  | secret (answer : Answer Secret)
  | plain (answer : Answer Unit)

structure Task where
  id : Nat
  talk : Cli.Dialogue Upshot

structure Sleeper where
  due : Instant
  task : Task

/-- The task that opens a new session at every interval. -/
structure Refresh where
  interval : Span
  nextTick : Instant
  /-- The sequence that it waits for. -/
  running : Option Nat

structure Sessions where
  now : Instant
  client : Client
  /-- How a session is opened, where the task is to open one. -/
  bootstrap : Option Cli.Bootstrap
  session : Secret
  resolver : Resolver
  turns : Turns
  /-- Tasks that wait for their turn. -/
  queued : List Task
  ready : List Task
  /-- In the order in which they wake. -/
  sleeping : List Sleeper
  refresh : Option Refresh
  upshots : List (Nat × Upshot)
  nextId : Nat

namespace Sessions

def start (client : Client) (bootstrap : Option Cli.Bootstrap) (session : Secret) (ttl : Span) :
    Sessions where
  now := 0
  client := client
  bootstrap := bootstrap
  session := session
  resolver := .start ttl 0
  turns := .free
  queued := []
  ready := []
  sleeping := []
  refresh := none
  upshots := []
  nextId := 0

def moveTo (run : Sessions) (now : Instant) : Sessions :=
  { run with now, resolver := run.resolver.sweepUpTo now }

/-- Puts a sleeper behind all that wake no later. -/
def insertSleeper (sleeper : Sleeper) : List Sleeper → List Sleeper
  | [] => [sleeper]
  | first :: rest =>
    if first.due ≤ sleeper.due then first :: insertSleeper sleeper rest
    else sleeper :: first :: rest

def sleep (run : Sessions) (span : Span) (task : Task) : Sessions :=
  { run with sleeping := insertSleeper ⟨run.now + span.total, task⟩ run.sleeping }

/-- Starts a task. One that has to wait for its turn stands in the queue. -/
def spawn (run : Sessions) (inTurn : Bool) (talk : Cli.Dialogue Upshot) : Sessions × Nat :=
  let task : Task := ⟨run.nextId, talk⟩
  let run := { run with nextId := run.nextId + 1 }
  if !inTurn then ({ run with ready := run.ready ++ [task] }, task.id)
  else
    let run := { run with turns := run.turns.ask task.id }
    if run.turns.holds task.id then ({ run with ready := run.ready ++ [task] }, task.id)
    else ({ run with queued := run.queued ++ [task] }, task.id)

/-- Whoever holds the turn now and still stands in the queue gets ready. -/
def admitHolder (run : Sessions) : Sessions :=
  { run with
    ready := run.ready ++ run.queued.filter (run.turns.holds ·.id)
    queued := run.queued.filter (!run.turns.holds ·.id) }

/-- A refresh that has its session puts it to use; one that failed leaves the old session. -/
def refreshed (run : Sessions) (id : Nat) (upshot : Upshot) : Sessions :=
  match run.refresh with
  | some refresh =>
    if refresh.running ≠ some id then run
    else
      let run := { run with refresh := some { refresh with running := none } }
      match upshot with
      | .secret (.ok session) => { run with session }
      | _ => run
  | none => run

def finish (run : Sessions) (id : Nat) (upshot : Upshot) : Sessions :=
  { run with upshots := (id, upshot) :: run.upshots, turns := run.turns.leave id }.admitHolder.refreshed
    id upshot

/-- A task goes on until it waits or ends. -/
def proceed (id : Nat) : Cli.Dialogue Upshot → Sessions → Sessions
  | .done upshot, run => run.finish id upshot
  | .pause span next, run => run.sleep span ⟨id, next⟩
  | .run command next, run =>
    let (client, reply) := run.client.run command
    let run := { run with client }
    if reply.delay.isZero then proceed id (next reply.result) run
    else run.sleep reply.delay ⟨id, next reply.result⟩

/-- When the refresh task would start a sequence, if it waits for a tick. -/
def tick? (run : Sessions) : Option Instant := do
  let refresh ← run.refresh
  guard refresh.running.isNone
  return Nat.max run.now refresh.nextTick

/-- The sequence that opens a session. -/
def opening (run : Sessions) : Cli.Dialogue Upshot :=
  match run.bootstrap with
  | some bootstrap => bootstrap.establish.map .secret
  | none => .done (.secret (.ok run.session))

def startRefreshing (run : Sessions) (at_ : Instant) : Sessions :=
  let (run, id) := (run.moveTo at_).spawn true run.opening
  { run with
    refresh := run.refresh.map fun refresh =>
      { refresh with nextTick := refresh.nextTick + refresh.interval.total, running := some id } }

/-- The next thing that happens, if there is one up to the limit. -/
def step (run : Sessions) (limit : Instant) : Option Sessions :=
  match run.ready with
  | task :: rest => some (proceed task.id task.talk { run with ready := rest })
  | [] =>
    let wake (sleeper : Sleeper) (rest : List Sleeper) : Option Sessions :=
      if sleeper.due ≤ limit then
        some { run.moveTo sleeper.due with sleeping := rest, ready := [sleeper.task] }
      else none
    let refreshAt (at_ : Instant) : Option Sessions :=
      if at_ ≤ limit then some (run.startRefreshing at_) else none
    match run.sleeping, run.tick? with
    | [], none => none
    | [], some tick => refreshAt tick
    | sleeper :: rest, none => wake sleeper rest
    | sleeper :: rest, some tick => if sleeper.due ≤ tick then wake sleeper rest else refreshAt tick

/-- More steps than can happen up to an instant: ticks are a millisecond apart at least, and a
sequence has fewer than thirty-two steps. -/
def stepsUpTo (run : Sessions) (limit : Instant) : Nat :=
  32 * (limit.millis + run.ready.length + run.queued.length + run.sleeping.length + 2)

def stepsWhile (going : Sessions → Bool) (limit : Instant) : Nat → Sessions → Sessions
  | 0, run => run
  | fuel + 1, run =>
    if !going run then run
    else
      match run.step limit with
      | some next => stepsWhile going limit fuel next
      | none => run

def elapse (run : Sessions) (span : Span) : Sessions :=
  let limit := run.now + span.total
  (stepsWhile (fun _ => true) limit (run.stepsUpTo limit) run).moveTo limit

/-- All pauses of one sequence together. -/
def sequencePauses : Span := .ofSeconds 65

/-- By this instant everything that has started is over. -/
def horizon (run : Sessions) : Instant :=
  let begun := run.sleeping.foldl (fun latest sleeper => Nat.max latest sleeper.due) run.now
  begun + run.client.patience + (run.nextId + 1) * sequencePauses.total

def upshot? (run : Sessions) (id : Nat) : Option Upshot := run.upshots.lookup id

/-- Lets time pass until a task has ended. -/
def await (run : Sessions) (id : Nat) : Sessions :=
  stepsWhile (fun run => (run.upshot? id).isNone) run.horizon (run.stepsUpTo run.horizon) run

/-- Starts a task and waits for its end. -/
def perform (run : Sessions) (inTurn : Bool) (talk : Cli.Dialogue Upshot) : Sessions × Option Upshot :=
  let (run, id) := run.spawn inTurn talk
  let run := run.await id
  (run, run.upshot? id)

def answer? : Option Upshot → Option (Answer Secret)
  | some (.secret answer) => some answer
  | _ => none

def fetch (run : Sessions) (name : String) : Sessions × Option (Answer Secret) :=
  let (run, upshot) := run.perform false ((Cli.fetch name run.session).map .secret)
  (run, answer? upshot)

def resolve (run : Sessions) (name : String) : Sessions × Option (Answer Secret) :=
  let (resolver, resolving) := run.resolver.begin name run.now
  let run := { run with resolver }
  match resolving with
  | .answered answer => (run, some answer)
  | .fetching lookup =>
    match run.fetch name with
    | (run, none) => (run, none)
    | (run, some answer) =>
      let (resolver, settled) := run.resolver.finish lookup answer run.now
      ({ run with resolver }, settled)

def sync (run : Sessions) : Sessions × Option (Answer Unit) :=
  match run.perform false ((Cli.sync run.session).map .plain) with
  | (run, some (.plain answer)) => (run, some answer)
  | (run, _) => (run, none)

/-- Starts a number of sequences together and waits for all of them. -/
def establishMany (run : Sessions) (count : Nat) : Sessions × List (Option (Answer Secret)) :=
  let (run, ids) := (List.range count).foldl (fun (run, ids) _ =>
    let (run, id) := run.spawn true run.opening
    (run, ids ++ [id])) (run, [])
  let run := ids.foldl await run
  (run, ids.map fun id => answer? (run.upshot? id))

def invalidate (run : Sessions) : Sessions × Nat :=
  let (resolver, removed) := run.resolver.invalidate
  ({ run with resolver }, removed)

def startRefresh (run : Sessions) (interval : Span) : Sessions :=
  { run with refresh := some ⟨interval, run.now + interval.total, none⟩ }

/-- Ends the refresh task, once a sequence that it has begun is over. -/
def stopRefresh (run : Sessions) : Sessions :=
  match run.refresh.bind Refresh.running with
  | some id => { run.await id with refresh := none }
  | none => { run with refresh := none }

end Sessions
end SecretBroker.Rehearsal
