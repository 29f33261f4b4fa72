import SecretBroker.Http.Listener
import SecretBroker.Rehearsal.Connected
import SecretBroker.Startup

/-!
Rehearsal of a whole run of the service, from its start to the signal that ends it. The host has
no addresses but the loopback ones of IPv4 and those that stand for every address.
-/

namespace SecretBroker.Rehearsal

/-- How a run ends: its exit code, what it reported, and the commands that the client ran. -/
structure Ending where
  exit : Nat
  report : String
  calls : List Cli.Command

/-- What the host says to an address; `taken` if something listens at all of its own. -/
def hostStanding (taken : Bool) (address : Net.Address) : Http.Standing :=
  let own :=
    match address with
    | .v4 bits => bits >>> 24 = 127 || bits = 0
    | .v6 bits => bits = 0
  if !own then .foreign else if taken then .taken else .free

/-- Connects and listens; what fails is reported. -/
def serve (settings : Settings) (connection : Connection) (client : Client) (taken : Bool) :
    Except StartFault Unit × List Cli.Command :=
  let (connected, answer) := Connected.connect connection client
  match answer with
  | .error error => (.error ⟨.vault, .vault error⟩, connected.calls)
  | .ok _ =>
    match Http.listenAt settings.server.endpoint (hostStanding taken) with
    | .error error => (.error ⟨.listening, error⟩, connected.calls)
    | .ok _ => (.ok (), connected.calls)

/-- Starts in the surroundings, serves until the signal comes, and ends. -/
def launch (around : Surroundings) (client : Client) (taken : Bool) : Ending :=
  let ending : Except StartFault Unit × List Cli.Command → Ending
    | (.error fault, calls) => ⟨1, around.warning ++ fault.report, calls⟩
    | (.ok _, calls) => ⟨0, around.warning, calls⟩
  match around.prepare with
  | .error fault => ending (.error fault, [])
  | .ok (settings, connection) => ending (serve settings connection client taken)

end SecretBroker.Rehearsal
