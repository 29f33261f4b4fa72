import Mathlib.Logic.Function.Basic
import SecretBroker.Cli.Bootstrap
import SecretBroker.Turns

/-!
Any number of openings of a session at once, in any order of their steps. An opening waits for the
turn, holds it from its first command to its last, and may be given up anywhere. Some of them belong
to tasks, each of which opens a session from time to time and puts it where a source has its own; a
task that is told to stop does so when it waits for its next time. What the client answers, and when
a task's time comes, is arbitrary. The history records what happened, the latest first.
-/

namespace SecretBroker.Cli

/-- How far an opening has come. -/
inductive Stage where
  /-- It waits for the turn, or has it and has not looked. -/
  | queued
  | talking (rest : Dialogue (Answer Secret))
  /-- A command is under way. -/
  | waiting (next : RunResult → Dialogue (Answer Secret))
  /-- It has left the turn, and its caller does not have the answer yet. -/
  | returning (answer : Answer Secret)
  | ended

structure Opening where
  bootstrap : Bootstrap
  /-- The task that it belongs to, if it belongs to one. -/
  owner : Option Nat
  stage : Stage

inductive Errand where
  | idle
  | opening (id : Nat)
  | ended
  deriving DecidableEq

structure SessionTask where
  bootstrap : Bootstrap
  source : Nat
  errand : Errand
  /-- It was told to stop, or nobody is left who could tell it. -/
  told : Bool

inductive SessionEvent where
  | issued (id : Nat) (owner : Option Nat) (command : Command)
  /-- The caller has the answer. -/
  | completed (id : Nat) (owner : Option Nat) (answer : Answer Secret)
  /-- A source got a session, from a task or from somebody else. -/
  | wrote (source : Nat) (task : Option Nat) (session : Secret)
  /-- Whoever had a task stopped knows that it has stopped. -/
  | stopped (task : Nat)

structure Openings where
  turns : Turns
  openings : Nat → Option Opening
  tasks : Nat → Option SessionTask
  sessions : Nat → Secret
  history : List SessionEvent

namespace Openings

/-- What an opening does, or what happens to it. -/
inductive Deed where
  | begin
  | issue
  | answer (result : RunResult)
  /-- The pause before a command is over. -/
  | wake
  | leave
  | complete
  | cancel

inductive TaskDeed where
  /-- Its time has come, and it starts an opening. -/
  | tick (opening : Nat)
  | tell
  | notice
  /-- It ends in the middle of what it does. -/
  | abort
  | join

inductive Act where
  | come (id : Nat) (bootstrap : Bootstrap)
  | opening (id : Nat) (deed : Deed)
  | spawn (id : Nat) (bootstrap : Bootstrap) (source : Nat)
  | task (id : Nat) (deed : TaskDeed)
  | write (source : Nat) (session : Secret)

def start (sessions : Nat → Secret) : Openings :=
  ⟨.free, fun _ => none, fun _ => none, sessions, []⟩

def note (run : Openings) (event : SessionEvent) : Openings :=
  { run with history := event :: run.history }

def withTurns (run : Openings) (turns : Turns) : Openings := { run with turns }

def place (run : Openings) (id : Nat) (opening : Opening) : Openings :=
  { run with openings := Function.update run.openings id (some opening) }

def assign (run : Openings) (id : Nat) (task : SessionTask) : Openings :=
  { run with tasks := Function.update run.tasks id (some task) }

def write (run : Openings) (source : Nat) (writer : Option Nat) (session : Secret) : Openings :=
  { run with sessions := Function.update run.sessions source session }.note
    (.wrote source writer session)

/-- An opening asks for the turn. -/
def enter (run : Openings) (id : Nat) (bootstrap : Bootstrap) (owner : Option Nat) : Openings :=
  (run.withTurns (run.turns.ask id)).place id ⟨bootstrap, owner, .queued⟩

/-- An opening leaves the turn, or the queue for it. -/
def quit (run : Openings) (id : Nat) (opening : Opening) (stage : Stage) : Openings :=
  (run.withTurns (run.turns.leave id)).place id { opening with stage }

/-- The task takes the answer of its opening; only a session is put to use. -/
def deliver (run : Openings) (id : Nat) (task : SessionTask) (answer : Answer Secret) : Openings :=
  let idle := run.assign id { task with errand := .idle }
  match answer with
  | .ok session => idle.write task.source (some id) session
  | .error _ => idle

def complete (run : Openings) (id : Nat) (opening : Opening) (answer : Answer Secret) : Openings :=
  let done := (run.place id { opening with stage := .ended }).note (.completed id opening.owner answer)
  match opening.owner with
  | none => done
  | some owner =>
    match run.tasks owner with
    | some task => done.deliver owner task answer
    | none => done

/-- What an opening does where it stands; nothing, if it cannot. -/
def proceed (run : Openings) (id : Nat) (opening : Opening) (deed : Deed) : Openings :=
  match deed, opening.stage with
  | .begin, .queued =>
    if run.turns.holds id then
      run.place id { opening with stage := .talking opening.bootstrap.establish }
    else run
  | .issue, .talking (.run command next) =>
    (run.place id { opening with stage := .waiting next }).note (.issued id opening.owner command)
  | .answer result, .waiting next => run.place id { opening with stage := .talking (next result) }
  | .wake, .talking (.pause _ next) => run.place id { opening with stage := .talking next }
  | .leave, .talking (.done answer) => run.quit id opening (.returning answer)
  | .complete, .returning answer => run.complete id opening answer
  | .cancel, _ => if opening.owner.isNone then run.quit id opening .ended else run
  | _, _ => run

/-- What a task does where it stands. One that has begun an opening waits for its end, unless it is
aborted. -/
def attend (run : Openings) (id : Nat) (task : SessionTask) (deed : TaskDeed) : Openings :=
  match deed, task.errand with
  | .tick opening, .idle =>
    match run.openings opening with
    | none =>
      (run.assign id { task with errand := .opening opening }).enter opening task.bootstrap (some id)
    | some _ => run
  | .tell, _ => run.assign id { task with told := true }
  | .notice, .idle => if task.told then run.assign id { task with errand := .ended } else run
  | .abort, .opening opening =>
    match run.openings opening with
    | some begun => (run.quit opening begun .ended).assign id { task with errand := .ended }
    | none => run.assign id { task with errand := .ended }
  | .abort, _ => run.assign id { task with errand := .ended }
  | .join, .ended => if task.told then run.note (.stopped id) else run
  | _, _ => run

/-- One act; one that cannot happen changes nothing. -/
def step (run : Openings) : Act → Openings
  | .come id bootstrap =>
    match run.openings id with
    | none => run.enter id bootstrap none
    | some _ => run
  | .opening id deed =>
    match run.openings id with
    | some opening => run.proceed id opening deed
    | none => run
  | .spawn id bootstrap source =>
    match run.tasks id with
    | none => run.assign id ⟨bootstrap, source, .idle, false⟩
    | some _ => run
  | .task id deed =>
    match run.tasks id with
    | some task => run.attend id task deed
    | none => run
  | .write source session => run.write source none session

/-- Every run of openings and tasks, where sources have their sessions to begin with. -/
def run (sessions : Nat → Secret) (acts : List Act) : Openings := acts.foldl step (start sessions)

end Openings

/-- The session of an opening that succeeded for a task. -/
@[simp]
def SessionEvent.good? (task : Nat) : SessionEvent → Option Secret
  | .completed _ (some owner) (.ok session) => if owner = task then some session else none
  | _ => none

/-- The last of the task's openings that succeeded, if one did. -/
def lastGood? (task : Nat) (history : List SessionEvent) : Option Secret :=
  history.findSome? (SessionEvent.good? task)

end SecretBroker.Cli
