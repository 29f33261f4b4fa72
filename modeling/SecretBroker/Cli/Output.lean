import SecretBroker.VaultError

/-!
What a run of a command leaves behind: its two output streams, and an exit code unless a
signal ended it.
-/

namespace SecretBroker.Cli

structure Output where
  stdout : String
  stderr : String
  exit : Option Int
  deriving DecidableEq, Repr

namespace Output

def success (output : Output) : Bool := output.exit == some 0

/-- Both streams, on lines of their own when neither is empty. -/
def combined (output : Output) : String :=
  if output.stderr.isEmpty then output.stdout
  else if output.stdout.isEmpty then output.stderr
  else output.stdout ++ "\n" ++ output.stderr

def exitLabel (output : Output) : String :=
  match output.exit with
  | some code => toString code
  | none => "signal"

end Output

/-- What a caller of the client gets: an output, or why there is none. -/
abbrev RunResult := Answer Output

end SecretBroker.Cli
