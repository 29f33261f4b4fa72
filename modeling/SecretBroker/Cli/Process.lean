import SecretBroker.Cli.Command
import SecretBroker.Cli.Output
import SecretBroker.Text.Utf8

/-!
Running the client as a process: a command outside the allowed forms is never run, and what the
system reports of a run becomes an output or the reason why there is none.
-/

namespace SecretBroker.Cli

/-- What the system reports of a process. -/
inductive Launch where
  | missing
  | denied
  /-- It had not ended when its time was over. -/
  | overdue
  /-- It ended, and left bytes on both streams; there is no exit code if a signal ended it. -/
  | ended (stdout stderr : List UInt8) (exit : Option UInt8)
  deriving DecidableEq, Repr

namespace Command

/-- A value that holds a NUL cannot be handed to a process. -/
def isPassable (command : Command) : Bool :=
  command.env.all fun setting => !setting.2.reveal.toList.contains '\x00'

def spawnFailure (reason : String) : VaultError := .transport ("failed to spawn bw: " ++ reason)

def overdue (command : Command) : VaultError :=
  .transport ("bw " ++ command.subcommand ++ " timed out after " ++
    toString command.timeout.seconds ++ "s")

/-- Whether a process is started at all. -/
def isStarted (command : Command) (launch : Launch) : Bool :=
  command.fault?.isNone && command.isPassable && launch ≠ .missing && launch ≠ .denied

def outcome (command : Command) (launch : Launch) : RunResult :=
  match command.fault? with
  | some fault => .error fault.error
  | none =>
    if !command.isPassable then .error (spawnFailure "invalid input parameter")
    else
      match launch with
      | .missing => .error (spawnFailure "entity not found")
      | .denied => .error (spawnFailure "permission denied")
      | .overdue => .error command.overdue
      | .ended stdout stderr exit =>
        .ok ⟨Text.decodeLossy stdout, Text.decodeLossy stderr, exit.map fun code => code.toNat⟩

end Command
end SecretBroker.Cli
