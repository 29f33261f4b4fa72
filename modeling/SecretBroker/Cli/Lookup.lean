import SecretBroker.Cli.Dialogue
import SecretBroker.Entry.Decode

/-!
Looking a secret up with the command line client. The exact name is tried first; if that fails,
the first entry that a search finds is taken. One session serves the whole lookup.
-/

namespace SecretBroker.Cli

/-- A name has to be good both as a name and as an argument. -/
def lookupFault? (name : String) : Option VaultError :=
  match LookupName.fault? name with
  | some fault => some fault.error
  | none => (Argument.fault? name).map Argument.Fault.error

def valueOf (name : String) (entry : Entry) : Answer Secret :=
  match entry.clientValue with
  | some value => .ok ⟨value⟩
  | none => .error (.noValue name)

/-- The entry that an exact lookup printed. -/
def exactEntry (output : Output) : Answer Entry :=
  match Entry.read output.stdout with
  | some entry => .ok entry
  | none => .error (.invalidResponse "bw get output is not valid JSON")

/-- The first entry of a search's output. -/
def firstFound (name : String) (output : Output) : Answer Entry :=
  if !output.success then .error (.transport ("bw list exited with code " ++ output.exitLabel))
  else
    match Entry.readList output.stdout with
    | none => .error (.invalidResponse "bw list output is not valid JSON")
    | some [] => .error (.notFound name)
    | some (entry :: _) => .ok entry

def fetch (name : String) (session : Secret) : Dialogue (Answer Secret) :=
  match lookupFault? name with
  | some error => .refuse error
  | none =>
    (Dialogue.output (.getItem name session)).andThen fun exact =>
      if exact.success then .done (exactEntry exact >>= valueOf name)
      else
        (Dialogue.output (.searchItems name session)).andThen fun found =>
          .done (firstFound name found >>= valueOf name)

def sync (session : Secret) : Dialogue (Answer Unit) :=
  (Dialogue.output (.sync session)).andThen fun output =>
    if output.success then .done (.ok ())
    else .refuse (.transport ("bw sync exited with code " ++ output.exitLabel))

end SecretBroker.Cli
