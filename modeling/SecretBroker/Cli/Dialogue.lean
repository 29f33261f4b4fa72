import SecretBroker.Cli.Command
import SecretBroker.Cli.Output

/-!
Dialogues with the command line client: which command comes next depends on what the ones
before it left behind, and some of them come after a pause.
-/

namespace SecretBroker.Cli

inductive Dialogue (α : Type) where
  | done (result : α)
  | run (command : Command) (next : RunResult → Dialogue α)
  | pause (span : Span) (next : Dialogue α)

namespace Dialogue

variable {α β : Type}

def bind : Dialogue α → (α → Dialogue β) → Dialogue β
  | .done result, rest => rest result
  | .run command next, rest => .run command fun result => (next result).bind rest
  | .pause span next, rest => .pause span (next.bind rest)

def map (f : α → β) (dialogue : Dialogue α) : Dialogue β := dialogue.bind fun result => .done (f result)

/-- Goes on after a success; a failure is passed on as it is. -/
def andThen (dialogue : Dialogue (Answer α)) (rest : α → Dialogue (Answer β)) :
    Dialogue (Answer β) :=
  dialogue.bind fun
    | .ok value => rest value
    | .error error => .done (.error error)

/-- Runs a command that has to yield an output. -/
def output (command : Command) : Dialogue (Answer Output) := .run command .done

def refuse (error : VaultError) : Dialogue (Answer α) := .done (.error error)

end Dialogue
end SecretBroker.Cli
