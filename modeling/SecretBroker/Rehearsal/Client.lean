import SecretBroker.Cli.Dialogue
import SecretBroker.Cli.Process

/-!
Scripted command line clients. Either runs of commands get replies in order, once they have been
held against the allowed forms, or processes are launched and end as a script says.
-/

namespace SecretBroker.Rehearsal

structure Reply where
  delay : Span
  result : Cli.RunResult

inductive Script where
  | replies (rest : List Reply)
  /-- Launches in order, and the one for every run after them. -/
  | launches (rest : List Cli.Launch) (last : Cli.Launch)

structure Client where
  script : Script
  /-- The commands that reached the client, the latest first. -/
  calls : List Cli.Command

namespace Client

def new (script : Script) : Client := ⟨script, []⟩

def exhausted : Reply := ⟨.zero, .error (.transport "no scripted response left")⟩

/-- A process takes no time, unless it has to be given up. -/
def launched (command : Cli.Command) (launch : Cli.Launch) : Reply :=
  ⟨if command.isStarted launch && launch = .overdue then command.timeout else .zero,
    command.outcome launch⟩

def run (client : Client) (command : Cli.Command) : Client × Reply :=
  match command.check with
  | .error error => (client, ⟨.zero, .error error⟩)
  | .ok _ =>
    match client.script with
    | .replies rest => (⟨.replies rest.tail, command :: client.calls⟩, rest.head?.getD exhausted)
    | .launches rest last =>
      let launch := rest.head?.getD last
      if command.isStarted launch then
        (⟨.launches rest.tail last, command :: client.calls⟩, launched command launch)
      else (client, launched command launch)

/-- How long the client can take for all that its script still holds. -/
def patience (client : Client) : Nat :=
  match client.script with
  | .replies rest => rest.foldl (fun total reply => total + reply.delay.total) 0
  | .launches rest _ => (rest.length + 16) * (Span.ofSeconds 60).total

end Client
end SecretBroker.Rehearsal
