import SecretBroker.Cli.Dialogue
import SecretBroker.Entry.Decode
import SecretBroker.Settings
import SecretBroker.Text.Blank

/-!
Opening a session of the command line client: the server is set, then a login follows unless the
client is logged in already, and the vault is unlocked. A login that the server turns away for
its rate is tried again after a pause.
-/

namespace SecretBroker.Cli

structure Bootstrap where
  serverUrl : String
  login : LoginMethod
  masterPassword : Secret
  deriving DecidableEq

inductive LoginOutcome where
  | loggedIn
  | rateLimited
  | failed (exit : Option Int)
  deriving DecidableEq, Repr

def loginMarkers : List String := ["You are logged in!", "already logged in"]

def rateLimitMarker : String := "Rate limit"

/-- What became of a login. The client may say that it is logged in and fail all the same. -/
def classifyLogin (output : Output) : LoginOutcome :=
  if output.success || loginMarkers.any (Text.contains · output.combined) then .loggedIn
  else if Text.contains rateLimitMarker output.combined then .rateLimited
  else .failed output.exit

/-- The status that the client reports, if its output can be read. -/
def reportedStatus (output : Output) : Option String := do
  match ← Json.slots [["status"]] (← Json.readText (Text.trim output.stdout)) with
  | [some status] => Json.string? status
  | _ => none

/-- Whether a status run says that no login is needed. -/
def saysLoggedIn : RunResult → Bool
  | .ok output => reportedStatus output == some "locked" || reportedStatus output == some "unlocked"
  | .error _ => false

/-- The session that an unlock printed. -/
def unlockedSession (output : Output) : Answer Secret :=
  if !output.success then .error (.authFailure "bw unlock failed")
  else if (Text.trim output.stdout).isEmpty then
    .error (.authFailure "empty session returned by unlock")
  else .ok ⟨Text.trim output.stdout⟩

namespace Bootstrap

def loginAttempts : Nat := 3

/-- The pause before an attempt; the first has none. -/
def pauseBefore (attempt : Nat) : Option Span :=
  if attempt ≤ 1 then none else some (.ofSeconds (5 * attempt * attempt))

def loginCommand (bootstrap : Bootstrap) : Command :=
  match bootstrap.login with
  | .apiKey credentials => .loginApiKey credentials.clientId credentials.clientSecret
  | .password email => .loginPassword email bootstrap.masterPassword

def paused {α : Type} (span : Option Span) (dialogue : Dialogue α) : Dialogue α :=
  match span with
  | some span => .pause span dialogue
  | none => dialogue

/-- The attempts that are left, the next of them with its number. -/
def logIn (bootstrap : Bootstrap) (attempt : Nat) : Nat → Dialogue (Answer Unit)
  | 0 => .refuse (.authFailure "bw login rate limited")
  | left + 1 =>
    paused (pauseBefore attempt) <|
      (Dialogue.output bootstrap.loginCommand).andThen fun output =>
        match classifyLogin output with
        | .loggedIn => .done (.ok ())
        | .rateLimited => bootstrap.logIn (attempt + 1) left
        | .failed _ => .refuse (.authFailure "bw login failed")

def setServer (bootstrap : Bootstrap) : Dialogue (Answer Unit) :=
  (Dialogue.output (.configServer bootstrap.serverUrl)).andThen fun output =>
    if output.success then .done (.ok ()) else .refuse (.authFailure "bw config server failed")

def logInIfNeeded (bootstrap : Bootstrap) : Dialogue (Answer Unit) :=
  .run .status fun status =>
    if saysLoggedIn status then .done (.ok ()) else bootstrap.logIn 1 loginAttempts

def unlock (bootstrap : Bootstrap) : Dialogue (Answer Secret) :=
  (Dialogue.output (.unlock bootstrap.masterPassword)).andThen fun output =>
    .done (unlockedSession output)

/-- The whole sequence; it ends with the session of an unlocked vault. -/
def establish (bootstrap : Bootstrap) : Dialogue (Answer Secret) :=
  bootstrap.setServer.andThen fun _ =>
    bootstrap.logInIfNeeded.andThen fun _ => bootstrap.unlock

end Bootstrap
end SecretBroker.Cli
