import SecretBroker.Cli.Lookup
import SecretBroker.Cli.Process
import SecretBroker.Proofs.ServiceFailures

/-!
How a lookup with the command line client can fail. As with the web service, a failure is told apart
by its place and its manner: why a command left no output, a search's exit code, whether an output
can be read, and whether it has an entry and that entry a value. The session and what the client
printed besides are no part of it, and it settles the error that the caller gets.
-/

namespace SecretBroker.Cli

/-- Why a command left no output. -/
inductive Mishap where
  | refused (fault : CommandFault)
  | unpassable
  | missing
  | denied
  | overdue
  deriving DecidableEq, Repr

inductive Failure where
  | name (fault : LookupName.Fault)
  | argument (fault : Argument.Fault)
  | exact (mishap : Mishap)
  | exactUnreadable
  | exactValueless
  | search (mishap : Mishap)
  | searchExit (exit : Option Int)
  | searchUnreadable
  | unmatched
  | foundValueless
  deriving DecidableEq, Repr

/-- The output of a command, if it left one. -/
def Command.read (command : Command) (launch : Launch) : Except Mishap Output :=
  match command.fault? with
  | some fault => .error (.refused fault)
  | none =>
    if !command.isPassable then .error .unpassable
    else
      match launch with
      | .missing => .error .missing
      | .denied => .error .denied
      | .overdue => .error .overdue
      | .ended stdout stderr exit =>
        .ok ⟨Text.decodeLossy stdout, Text.decodeLossy stderr, exit.map fun code => code.toNat⟩

/-- What a dialogue results in where the system tells of each command, by its turn, how it ran. -/
def Dialogue.enact {α : Type} (system : Nat → Command → Launch) : Dialogue α → Nat → α
  | .done result, _ => result
  | .run command next, turn =>
    (next (command.outcome (system turn command))).enact system (turn + 1)
  | .pause _ next, turn => next.enact system turn

/-- What a lookup comes to. -/
def answer (name : String) (session : Secret) (system : Nat → Command → Launch) : Answer Secret :=
  (fetch name session).enact system 0

/-! Where and how a lookup fails. -/

def exactFailure? (output : Output) : Option Failure :=
  match Entry.read output.stdout with
  | none => some .exactUnreadable
  | some entry => if entry.clientValue.isSome then none else some .exactValueless

def searchFailure? (output : Output) : Option Failure :=
  if !output.success then some (.searchExit output.exit)
  else
    match Entry.readList output.stdout with
    | none => some .searchUnreadable
    | some [] => some .unmatched
    | some (entry :: _) => if entry.clientValue.isSome then none else some .foundValueless

def failure? (name : String) (session : Secret) (system : Nat → Command → Launch) :
    Option Failure :=
  match LookupName.fault? name with
  | some fault => some (.name fault)
  | none =>
    match Argument.fault? name with
    | some fault => some (.argument fault)
    | none =>
      let getting := Command.getItem name session
      match getting.read (system 0 getting) with
      | .error mishap => some (.exact mishap)
      | .ok output =>
        if output.success then exactFailure? output
        else
          let searching := Command.searchItems name session
          match searching.read (system 1 searching) with
          | .error mishap => some (.search mishap)
          | .ok found => searchFailure? found

/-- The error where a command left no output. It does not depend on what the command's variables
are set to. -/
def Mishap.error (command : Command) : Mishap → VaultError
  | .refused fault => fault.error
  | .unpassable => Command.spawnFailure "invalid input parameter"
  | .missing => Command.spawnFailure "entity not found"
  | .denied => Command.spawnFailure "permission denied"
  | .overdue => command.overdue

/-- The error of a failure, for which the commands of a blank session serve as well. -/
def Failure.error (name : String) : Failure → VaultError
  | .name fault => fault.error
  | .argument fault => fault.error
  | .exact mishap => mishap.error (.getItem name ⟨""⟩)
  | .exactUnreadable => .invalidResponse "bw get output is not valid JSON"
  | .search mishap => mishap.error (.searchItems name ⟨""⟩)
  | .searchExit exit =>
    .transport ("bw list exited with code " ++ Output.exitLabel ⟨"", "", exit⟩)
  | .searchUnreadable => .invalidResponse "bw list output is not valid JSON"
  | .unmatched => .notFound name
  | .exactValueless | .foundValueless => .noValue name

theorem outcome_read (command : Command) (launch : Launch) :
    command.outcome launch = (command.read launch).mapError (Mishap.error command) := by
  unfold Command.outcome Command.read
  cases command.fault? with
  | some fault => rfl
  | none =>
      cases command.isPassable with
      | false => rfl
      | true => cases launch <;> rfl

theorem mishap_error {one other : Command} (sameArgs : one.args = other.args)
    (sameTimeout : one.timeout = other.timeout) (mishap : Mishap) :
    mishap.error one = mishap.error other := by
  cases mishap with
  | overdue => simp [Mishap.error, Command.overdue, Command.subcommand, sameArgs, sameTimeout]
  | refused | unpassable | missing | denied => rfl

theorem enact_output {α : Type} (system : Nat → Command → Launch) (command : Command)
    (rest : Output → Dialogue (Answer α)) (turn : Nat) :
    ((Dialogue.output command).andThen rest).enact system turn =
      match command.read (system turn command) with
      | .error mishap => .error (mishap.error command)
      | .ok output => (rest output).enact system (turn + 1) := by
  change Dialogue.enact system (Dialogue.bind (.done (command.outcome _)) _) (turn + 1) = _
  rw [outcome_read]
  cases command.read (system turn command) <;> rfl

theorem valueOf_reports (name : String) (entry : Entry) {valueless : Failure}
    (shown : valueless.error name = .noValue name) :
    Reports (Failure.error name) (if entry.clientValue.isSome then none else some valueless)
      (valueOf name entry) := by
  unfold valueOf
  cases entry.clientValue with
  | none => exact congrArg Except.error shown.symm
  | some value => exact ⟨_, rfl⟩

theorem exact_reports (name : String) (output : Output) :
    Reports (Failure.error name) (exactFailure? output) (exactEntry output >>= valueOf name) := by
  unfold exactFailure? exactEntry
  cases Entry.read output.stdout with
  | none => rfl
  | some entry => exact valueOf_reports name entry rfl

theorem search_reports (name : String) (output : Output) :
    Reports (Failure.error name) (searchFailure? output) (firstFound name output >>= valueOf name) := by
  unfold searchFailure? firstFound
  cases success : output.success with
  | false => rfl
  | true =>
      cases Entry.readList output.stdout with
      | none => rfl
      | some entries =>
          cases entries with
          | nil => rfl
          | cons entry rest => exact valueOf_reports name entry rfl

/-- Every answer of a lookup goes with its failure. -/
theorem answer_reports (name : String) (session : Secret) (system : Nat → Command → Launch) :
    Reports (Failure.error name) (failure? name session system) (answer name session system) := by
  unfold failure? answer fetch lookupFault?
  cases LookupName.fault? name with
  | some fault => rfl
  | none =>
      cases Argument.fault? name with
      | some fault => rfl
      | none =>
          simp only [Option.map_none, enact_output]
          cases (Command.getItem name session).read (system 0 (.getItem name session)) with
          | error mishap =>
              -- The error is that of the same command with another session.
              exact congrArg Except.error (mishap_error rfl rfl mishap)
          | ok output =>
              dsimp only
              cases output.success with
              | true => exact exact_reports name output
              | false =>
                  simp only [Bool.false_eq_true, if_false, enact_output]
                  cases (Command.searchItems name session).read
                      (system 1 (.searchItems name session)) with
                  | error mishap => exact congrArg Except.error (mishap_error rfl rfl mishap)
                  | ok found => exact search_reports name found

end SecretBroker.Cli
