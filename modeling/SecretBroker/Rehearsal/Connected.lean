import SecretBroker.Net.Url
import SecretBroker.Rehearsal.Exchanges
import SecretBroker.Rehearsal.Sessions

/-!
Rehearsal of connecting to the vault in each of the ways that the settings can choose, where the
command line client is scripted and no web service can be reached.
-/

namespace SecretBroker.Rehearsal

inductive Connected where
  | api (run : Exchanges)
  | cli (run : Sessions)

namespace Connected

def isWebUrl (url : String) : Bool :=
  Net.Url.isValid url &&
    ((Net.Url.scheme? (Net.Url.significant url.toList)).any fun found =>
      found.1 = "http" || found.1 = "https")

/-- A web service that nothing reaches; a call to what is no web address is not even made. -/
def nowhere (baseUrl : String) : Peer := ⟨some (if isWebUrl baseUrl then .unreachable else .failed), [], []⟩

/-- Connects, and fails if a session is needed and cannot be opened. -/
def connect (connection : Connection) (client : Client) : Connected × Answer Unit :=
  let baseUrl := Text.dropTrailing '/' connection.baseUrl
  let ttl := connection.cacheTtl
  match connection.strategy with
  | .api credentials =>
    (.api (.start (nowhere baseUrl) baseUrl credentials Exchanges.callTimeout ttl), .ok ())
  | .cliSession session => (.cli (.start client none session ttl), .ok ())
  | .cliBootstrap login masterPassword =>
    let run := Sessions.start client (some ⟨baseUrl, login, masterPassword⟩) ⟨""⟩ ttl
    match run.establishMany 1 with
    | (run, [some (.ok session)]) =>
      let run := { run with session }
      (.cli (if connection.sessionRefresh.isZero then run
        else run.startRefresh connection.sessionRefresh), .ok ())
    | (run, [some (.error error)]) => (.cli run, .error error)
    | (run, _) => (.cli run, .ok ())

def sourceType : Connected → String
  | .api _ => "api"
  | .cli _ => "cli"

def resolve : Connected → String → Connected × Option (Answer Secret)
  | .api run, name => (.api (run.resolve name).1, (run.resolve name).2)
  | .cli run, name => (.cli (run.resolve name).1, (run.resolve name).2)

def sync : Connected → Connected × Option (Answer Unit)
  | .api run => (.api run, some (.ok ()))
  | .cli run => (.cli run.sync.1, run.sync.2)

def invalidate : Connected → Connected × Nat
  | .api run => (.api run.invalidateCache.1, run.invalidateCache.2)
  | .cli run => (.cli run.invalidate.1, run.invalidate.2)

def elapse : Connected → Span → Connected
  | .api run, span => .api (run.elapse span)
  | .cli run, span => .cli (run.elapse span)

def tally : Connected → Tally
  | .api run => run.resolver.tally
  | .cli run => run.resolver.tally

def calls : Connected → List Cli.Command
  | .api _ => []
  | .cli run => run.client.calls.reverse

end Connected
end SecretBroker.Rehearsal
