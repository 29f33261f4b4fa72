import SecretBroker.Name
import SecretBroker.Secret
import SecretBroker.Span

/-!
Commands of the vault's command line client. Secrets travel in a command's environment and
never among its arguments. Before a command runs it is held against the list of allowed forms.
-/

namespace SecretBroker.Cli

structure Command where
  args : List String
  env : List (String × Secret)
  timeout : Span
  deriving DecidableEq

namespace Command

def clientIdVariable : String := "BW_CLIENTID"
def clientSecretVariable : String := "BW_CLIENTSECRET"
def passwordVariable : String := "BW_PASSWORD"
def sessionVariable : String := "BW_SESSION"

def configServer (url : String) : Command := ⟨["config", "server", url], [], .ofSeconds 10⟩

def status : Command := ⟨["status"], [], .ofSeconds 5⟩

def loginApiKey (clientId : String) (clientSecret : Secret) : Command :=
  ⟨["login", "--apikey"],
    [(clientIdVariable, ⟨clientId⟩), (clientSecretVariable, clientSecret)], .ofSeconds 15⟩

def loginPassword (email : String) (password : Secret) : Command :=
  ⟨["login", email, "--passwordenv", passwordVariable], [(passwordVariable, password)],
    .ofSeconds 15⟩

def unlock (password : Secret) : Command :=
  ⟨["unlock", "--passwordenv", passwordVariable, "--raw"], [(passwordVariable, password)],
    .ofSeconds 10⟩

def getItem (name : String) (session : Secret) : Command :=
  ⟨["get", "item", name], [(sessionVariable, session)], .ofSeconds 30⟩

def searchItems (name : String) (session : Secret) : Command :=
  ⟨["list", "items", "--search", name], [(sessionVariable, session)], .ofSeconds 30⟩

def sync (session : Secret) : Command := ⟨["sync"], [(sessionVariable, session)], .ofSeconds 60⟩

/-- What a command sets a variable to; the first setting counts. -/
def lookupVariable (command : Command) (name : String) : Option Secret :=
  (command.env.find? (·.1 = name)).map (·.2)

/-- The first argument, which labels the command in messages. -/
def subcommand (command : Command) : String := command.args.head?.getD ""

end Command

/-- One argument position of an allowed form. -/
inductive Slot where
  | fixed (token : String)
  | value
  deriving DecidableEq, Repr

structure Form where
  subcommand : String
  slots : List Slot
  deriving DecidableEq, Repr

namespace Form

def allowed : List Form :=
  [⟨"config", [.fixed "server", .value]⟩,
   ⟨"status", []⟩,
   ⟨"login", [.fixed "--apikey"]⟩,
   ⟨"login", [.value, .fixed "--passwordenv", .fixed "BW_PASSWORD"]⟩,
   ⟨"unlock", [.fixed "--passwordenv", .fixed "BW_PASSWORD", .fixed "--raw"]⟩,
   ⟨"get", [.fixed "item", .value]⟩,
   ⟨"list", [.fixed "items", .fixed "--search", .value]⟩,
   ⟨"sync", []⟩]

end Form

def allowedVariables : List String :=
  ["BW_SESSION", "BW_PASSWORD", "BW_CLIENTID", "BW_CLIENTSECRET"]

inductive CommandFault where
  | empty
  | subcommand
  | form
  | argument (fault : Argument.Fault)
  | setting (name : String)
  deriving DecidableEq, Repr

def CommandFault.reason : CommandFault → String
  | .empty => "empty bw command"
  | .subcommand => "bw sub-command not allowed"
  | .form => "bw arguments do not match an allowed form"
  | .argument fault => fault.reason
  | .setting name => "environment variable " ++ name ++ " not allowed"

def CommandFault.error (fault : CommandFault) : VaultError := .invalidInput fault.reason

/-- The first slot, from the left, that an argument does not fit. -/
def slotsFault? : List Slot → List String → Option CommandFault
  | .fixed token :: slots, arg :: args =>
    if arg = token then slotsFault? slots args else some .form
  | .value :: slots, arg :: args =>
    match Argument.fault? arg with
    | some fault => some (.argument fault)
    | none => slotsFault? slots args
  | _, _ => none

def formFault? (form : Form) (args : List String) : Option CommandFault :=
  if args.length = form.slots.length then slotsFault? form.slots args else some .form

namespace Command

/-- A command is admitted if one of its sub-command's forms fits; otherwise the first of
these forms tells the fault. Its variables are looked at last. -/
def fault? (command : Command) : Option CommandFault :=
  match command.args with
  | [] => some .empty
  | subcommand :: args =>
    match (Form.allowed.filter (·.subcommand = subcommand)).map (formFault? · args) with
    | [] => some .subcommand
    | first :: others =>
      match if (first :: others).any Option.isNone then none else first with
      | some fault => some fault
      | none =>
        (command.env.find? (fun setting => !allowedVariables.contains setting.1)).map
          fun setting => .setting setting.1

def check (command : Command) : Answer Unit :=
  match command.fault? with
  | some fault => .error fault.error
  | none => .ok ()

end Command
end SecretBroker.Cli
