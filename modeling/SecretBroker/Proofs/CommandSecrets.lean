import SecretBroker.Cli.Bootstrap
import SecretBroker.Cli.Lookup
import SecretBroker.Proofs.ClientPlay

/-!
What others can see of the commands that are issued. A list of processes shows a command's arguments
but not what its variables are set to. Dialogues that differ in secrets only show the same commands,
whatever the client does, and each secret is what the variable that is meant for it is set to.
-/

namespace SecretBroker.Cli

/-- What is seen of a command: its arguments, how long it may take, and whether it is admitted. -/
structure Sight where
  args : List String
  timeout : Span
  verdict : Answer Unit

def Command.sight (command : Command) : Sight := ⟨command.args, command.timeout, command.check⟩

def sightOf (doings : List Doing) : List Sight := (commandsOf doings).map Command.sight

/-! Commands and dialogues without their secrets. -/

def Command.redact (command : Command) : Command :=
  { command with env := command.env.map fun setting => (setting.1, ⟨Secret.mark⟩) }

def Doing.redact : Doing → Doing
  | .ran command result => .ran command.redact result
  | .paused span => .paused span

-- A command is checked by its arguments and by the names of its variables.
theorem Command.fault_redact (command : Command) : command.redact.fault? = command.fault? := by
  have names : (command.redact.env.find? fun setting => !allowedVariables.contains setting.1).map
        (fun setting => CommandFault.setting setting.1) =
      (command.env.find? fun setting => !allowedVariables.contains setting.1).map
        fun setting => CommandFault.setting setting.1 := by
    simp only [Command.redact, List.find?_map, Option.map_map]
    rfl
  unfold Command.fault?
  rw [names]
  rfl

theorem Command.sight_redact (command : Command) : command.redact.sight = command.sight := by
  unfold Command.sight Command.check
  rw [Command.fault_redact]
  rfl

theorem sight_redacted (doings : List Doing) :
    sightOf (doings.map Doing.redact) = sightOf doings := by
  induction doings with
  | nil => rfl
  | cons doing rest ih =>
      cases doing with
      | ran command result =>
          change command.redact.sight :: sightOf (rest.map Doing.redact) = _
          rw [command.sight_redact, ih]
          rfl
      | paused span => exact ih

namespace Dialogue

variable {α β : Type}

def redact : Dialogue α → Dialogue α
  | .done result => .done result
  | .run command next => .run command.redact fun result => (next result).redact
  | .pause span next => .pause span next.redact

theorem redact_bind (dialogue : Dialogue α) (rest : α → Dialogue β) :
    (dialogue.bind rest).redact = dialogue.redact.bind fun result => (rest result).redact := by
  induction dialogue with
  | done result => rfl
  | run command next ih =>
      simp only [bind, redact]
      congr 1
      funext result
      exact ih result
  | pause span next ih =>
      simp only [bind, redact]
      rw [ih]

theorem redact_andThen (dialogue : Dialogue (Answer α)) (rest : α → Dialogue (Answer β)) :
    (dialogue.andThen rest).redact = dialogue.redact.andThen fun value => (rest value).redact := by
  unfold andThen
  rw [redact_bind]
  congr 1
  funext answer
  cases answer <;> rfl

theorem play_redact (dialogue : Dialogue α) (script : Nat → RunResult) (turn : Nat) :
    dialogue.redact.play script turn =
      ((dialogue.play script turn).1.map Doing.redact, (dialogue.play script turn).2) := by
  induction dialogue generalizing turn with
  | done result => rfl
  | run command next ih =>
      simp only [redact, play, ih]
      rfl
  | pause span next ih =>
      simp only [redact, play, ih]
      rfl

/-- Dialogues that are the same without their secrets are seen to be the same. -/
theorem sight_of_redact {one other : Dialogue α} (same : one.redact = other.redact)
    (script : Nat → RunResult) :
    sightOf (one.play script 0).1 = sightOf (other.play script 0).1 := by
  have played : (one.play script 0).1.map Doing.redact =
      (other.play script 0).1.map Doing.redact := by
    have both := congrArg (fun dialogue : Dialogue α => (dialogue.play script 0).1) same
    simpa only [play_redact] using both
  rw [← sight_redacted, played, sight_redacted]

/-- Every command that can be issued in a dialogue is of a kind. -/
def Issues (kind : Command → Prop) : Dialogue α → Prop
  | .done _ => True
  | .run command next => kind command ∧ ∀ result, (next result).Issues kind
  | .pause _ next => next.Issues kind

theorem issues_bind {kind : Command → Prop} {dialogue : Dialogue α} {rest : α → Dialogue β}
    (first : dialogue.Issues kind) (later : ∀ result, (rest result).Issues kind) :
    (dialogue.bind rest).Issues kind := by
  induction dialogue with
  | done result => exact later result
  | run command next ih =>
      constructor
      · exact first.1
      · intro result
        exact ih result (first.2 result)
  | pause span next ih => exact ih first

theorem issues_andThen {kind : Command → Prop} {dialogue : Dialogue (Answer α)}
    {rest : α → Dialogue (Answer β)} (first : dialogue.Issues kind)
    (later : ∀ value, (rest value).Issues kind) : (dialogue.andThen rest).Issues kind := by
  apply issues_bind first
  intro answer
  cases answer with
  | error error => trivial
  | ok value => exact later value

theorem issues_output {kind : Command → Prop} {command : Command} (holds : kind command) :
    (output command).Issues kind :=
  ⟨holds, fun _ => trivial⟩

theorem issues_played {kind : Command → Prop} {dialogue : Dialogue α}
    (issues : dialogue.Issues kind) (script : Nat → RunResult) (turn : Nat) :
    ∀ command ∈ commandsOf (dialogue.play script turn).1, kind command := by
  induction dialogue generalizing turn with
  | done result => simp [play, commandsOf]
  | run command next ih =>
      intro issued member
      rcases List.mem_cons.mp member with first | later
      · subst issued
        exact issues.1
      · exact ih (script turn) (issues.2 (script turn)) (turn + 1) issued later
  | pause span next ih => exact ih issues turn

end Dialogue

/-! The dialogues of lookups, of syncs and of openings without their secrets. -/

theorem fetch_redact (name : String) (one other : Secret) :
    (fetch name one).redact = (fetch name other).redact := by
  unfold fetch
  cases lookupFault? name with
  | some error => rfl
  | none =>
      simp only [Dialogue.redact_andThen]
      congr 1
      funext exact
      -- Whether there is a second command depends on the output of the first alone.
      by_cases success : exact.success = true
      · simp only [success, ↓reduceIte]
      · simp only [success]
        rfl

theorem sync_redact (one other : Secret) : (sync one).redact = (sync other).redact := by
  unfold sync
  rw [Dialogue.redact_andThen, Dialogue.redact_andThen]
  rfl

theorem fetch_settings (name : String) (session : Secret) :
    (fetch name session).Issues fun command => command.env = [("BW_SESSION", session)] := by
  unfold fetch
  cases lookupFault? name with
  | some error => trivial
  | none =>
      apply Dialogue.issues_andThen
      · exact Dialogue.issues_output rfl
      · intro exact
        split
        · trivial
        · apply Dialogue.issues_andThen
          · exact Dialogue.issues_output rfl
          · exact fun _ => trivial

theorem sync_settings (session : Secret) :
    (sync session).Issues fun command => command.env = [("BW_SESSION", session)] := by
  apply Dialogue.issues_andThen
  · exact Dialogue.issues_output rfl
  · intro output
    split <;> trivial

end SecretBroker.Cli

namespace SecretBroker.LoginMethod

/-- Both log in with an API key, or both with the same email address. -/
def SameKind : LoginMethod → LoginMethod → Prop
  | .apiKey _, .apiKey _ => True
  | .password email, .password other => email = other
  | _, _ => False

end SecretBroker.LoginMethod

namespace SecretBroker.Cli.Bootstrap

open Dialogue

variable {one other : Bootstrap}

/-- The commands of an opening, by their arguments, and what each of them sets its variables to. -/
inductive Sets (bootstrap : Bootstrap) : List String → List (String × Secret) → Prop
  | server : Sets bootstrap ["config", "server", bootstrap.serverUrl] []
  | status : Sets bootstrap ["status"] []
  | apiKey {credentials : Credentials} : bootstrap.login = .apiKey credentials →
      Sets bootstrap ["login", "--apikey"]
        [("BW_CLIENTID", ⟨credentials.clientId⟩), ("BW_CLIENTSECRET", credentials.clientSecret)]
  | password {email : String} : bootstrap.login = .password email →
      Sets bootstrap ["login", email, "--passwordenv", "BW_PASSWORD"]
        [("BW_PASSWORD", bootstrap.masterPassword)]
  | unlock : Sets bootstrap ["unlock", "--passwordenv", "BW_PASSWORD", "--raw"]
      [("BW_PASSWORD", bootstrap.masterPassword)]

theorem loginCommand_redact (kind : one.login.SameKind other.login) :
    one.loginCommand.redact = other.loginCommand.redact := by
  unfold loginCommand
  cases first : one.login with
  | apiKey credentials =>
      cases second : other.login with
      | apiKey others => rfl
      | password email =>
          rw [first, second] at kind
          exact kind.elim
  | password email =>
      cases second : other.login with
      | apiKey others =>
          rw [first, second] at kind
          exact kind.elim
      | password address =>
          rw [first, second] at kind
          obtain rfl : email = address := kind
          rfl

theorem redact_paused {α : Type} (span : Option Span) (dialogue : Dialogue α) :
    (paused span dialogue).redact = paused span dialogue.redact := by
  cases span <;> rfl

theorem logIn_redact (kind : one.login.SameKind other.login) (attempt left : Nat) :
    (one.logIn attempt left).redact = (other.logIn attempt left).redact := by
  induction left generalizing attempt with
  | zero => rfl
  | succ left ih =>
      unfold logIn
      rw [redact_paused, redact_paused, redact_andThen, redact_andThen]
      change paused _ ((Dialogue.output one.loginCommand.redact).andThen _) =
        paused _ ((Dialogue.output other.loginCommand.redact).andThen _)
      rw [loginCommand_redact kind]
      congr 2
      funext output
      -- Whether there is another attempt depends on the output of this one alone.
      cases classifyLogin output with
      | loggedIn => rfl
      | rateLimited => exact ih (attempt + 1)
      | failed exit => rfl

theorem setServer_redact (server : one.serverUrl = other.serverUrl) :
    one.setServer.redact = other.setServer.redact := by
  unfold setServer
  rw [server]

theorem logInIfNeeded_redact (kind : one.login.SameKind other.login) :
    one.logInIfNeeded.redact = other.logInIfNeeded.redact := by
  unfold logInIfNeeded
  simp only [Dialogue.redact]
  congr 1
  funext status
  by_cases spared : saysLoggedIn status = true
  · simp only [spared, ↓reduceIte]
  · simp only [spared]
    exact logIn_redact kind 1 loginAttempts

theorem unlock_redact (one other : Bootstrap) : one.unlock.redact = other.unlock.redact := by
  unfold unlock
  rw [redact_andThen, redact_andThen]
  rfl

theorem establish_redact (server : one.serverUrl = other.serverUrl)
    (kind : one.login.SameKind other.login) :
    one.establish.redact = other.establish.redact := by
  unfold establish
  simp only [redact_andThen]
  rw [setServer_redact server, logInIfNeeded_redact kind, unlock_redact one other]

/-! What the commands of an opening set their variables to. -/

variable {bootstrap : Bootstrap}

theorem loginCommand_sets (bootstrap : Bootstrap) :
    bootstrap.Sets bootstrap.loginCommand.args bootstrap.loginCommand.env := by
  unfold loginCommand
  split
  · rename_i login
    exact .apiKey login
  · rename_i login
    exact .password login

theorem issues_paused {α : Type} {kind : Command → Prop} {dialogue : Dialogue α}
    (issues : dialogue.Issues kind) (span : Option Span) : (paused span dialogue).Issues kind := by
  cases span <;> exact issues

theorem logIn_sets (attempt left : Nat) :
    (bootstrap.logIn attempt left).Issues fun command => bootstrap.Sets command.args command.env := by
  induction left generalizing attempt with
  | zero => trivial
  | succ left ih =>
      unfold logIn
      apply issues_paused
      apply issues_andThen (issues_output bootstrap.loginCommand_sets)
      intro output
      cases classifyLogin output with
      | loggedIn => trivial
      | rateLimited => exact ih (attempt + 1)
      | failed exit => trivial

theorem setServer_sets :
    bootstrap.setServer.Issues fun command => bootstrap.Sets command.args command.env := by
  apply issues_andThen
  · exact issues_output .server
  · intro output
    split <;> trivial

theorem logInIfNeeded_sets :
    bootstrap.logInIfNeeded.Issues fun command => bootstrap.Sets command.args command.env := by
  constructor
  · exact .status
  · intro status
    dsimp only
    split
    · trivial
    · exact logIn_sets 1 loginAttempts

theorem unlock_sets :
    bootstrap.unlock.Issues fun command => bootstrap.Sets command.args command.env := by
  apply issues_andThen
  · exact issues_output .unlock
  · exact fun _ => trivial

theorem establish_sets (bootstrap : Bootstrap) :
    bootstrap.establish.Issues fun command => bootstrap.Sets command.args command.env := by
  apply issues_andThen setServer_sets
  intro _
  apply issues_andThen logInIfNeeded_sets
  intro _
  exact unlock_sets

end SecretBroker.Cli.Bootstrap

namespace SecretBroker.Cli

/-- Whatever the client does, what is seen of the commands of a lookup, of a sync and of an opening
is the same for all sessions, master passwords, client ids and client secrets. A command of a lookup
or of a sync sets one variable, to the session. Those of an opening set nothing before the login,
which sets the client's id and secret, each as the variable of its own, or the master password, as
the unlock does; their arguments are fixed but for the server and the email address. -/
theorem secrets_stay_out_of_arguments :
    (∀ (name : String) (one other : Secret) (script : Nat → RunResult),
      sightOf ((fetch name one).play script 0).1 = sightOf ((fetch name other).play script 0).1) ∧
    (∀ (one other : Secret) (script : Nat → RunResult),
      sightOf ((sync one).play script 0).1 = sightOf ((sync other).play script 0).1) ∧
    (∀ (one other : Bootstrap) (script : Nat → RunResult), one.serverUrl = other.serverUrl →
      one.login.SameKind other.login →
        sightOf (one.establish.play script 0).1 = sightOf (other.establish.play script 0).1) ∧
    (∀ (name : String) (session : Secret) (script : Nat → RunResult),
      ∀ command ∈ commandsOf ((fetch name session).play script 0).1,
        command.env = [("BW_SESSION", session)]) ∧
    (∀ (session : Secret) (script : Nat → RunResult),
      ∀ command ∈ commandsOf ((sync session).play script 0).1,
        command.env = [("BW_SESSION", session)]) ∧
    ∀ (bootstrap : Bootstrap) (script : Nat → RunResult),
      ∀ command ∈ commandsOf (bootstrap.establish.play script 0).1,
        bootstrap.Sets command.args command.env := by
  refine ⟨?_, ?_, ?_, ?_, ?_, ?_⟩
  · intro name one other script
    exact Dialogue.sight_of_redact (fetch_redact name one other) script
  · intro one other script
    exact Dialogue.sight_of_redact (sync_redact one other) script
  · intro one other script server kind
    exact Dialogue.sight_of_redact (Bootstrap.establish_redact server kind) script
  · intro name session script
    exact Dialogue.issues_played (fetch_settings name session) script 0
  · intro session script
    exact Dialogue.issues_played (sync_settings session) script 0
  · intro bootstrap script
    exact Dialogue.issues_played bootstrap.establish_sets script 0

end SecretBroker.Cli
