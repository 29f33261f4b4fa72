import SecretBroker.DotEnv
import SecretBroker.LogFilter
import SecretBroker.Settings.Check

/-!
Starting the service: what is read and checked before anything is contacted, and how a start that
fails is reported. Each stage has a value or a fault that names the stage.
-/

namespace SecretBroker

/-- What the service was about when it failed to start. -/
inductive StartStage where
  | configuration
  | observability
  | strategy
  | vault
  | listening
  deriving DecidableEq, Repr

/-- What a report says before the cause; the choice of a strategy speaks for itself. -/
def StartStage.context? : StartStage → Option String
  | .configuration => some "failed to load configuration"
  | .observability => some "failed to initialize observability"
  | .strategy => none
  | .vault => some "failed to connect to the vault"
  | .listening => some "API server failed"

structure StartFault where
  stage : StartStage
  error : ServiceError
  deriving DecidableEq, Repr

/-- A text with every line moved right. -/
def indented (text : String) : String :=
  "\n".intercalate ((Text.split '\n' text).map ("    " ++ ·))

def StartFault.report (fault : StartFault) : String :=
  match fault.stage.context? with
  | none => "Error: " ++ fault.error.message ++ "\n"
  | some context =>
    "Error: " ++ context ++ "\n\nCaused by:\n" ++ indented fault.error.message ++ "\n"

def DotEnv.Fault.warning (fault : DotEnv.Fault) : String :=
  "Warning: Error loading .env file: " ++ fault.message ++ "\n"

/-- What the service finds around it when it starts. -/
structure Surroundings where
  outside : DotEnv.Variables
  /-- The text of the file of variables beside it. -/
  file? : Option String
  /-- The variable whose log filter, if it has a well-formed one, stands in for the setting. -/
  filterName? : Option String

namespace Surroundings

/-- All variables, and the fault in the file. -/
def loaded (around : Surroundings) : DotEnv.Variables × Option DotEnv.Fault :=
  match around.file? with
  | some text => DotEnv.load around.outside text
  | none => (around.outside, none)

def warning (around : Surroundings) : String := around.loaded.2.elim "" DotEnv.Fault.warning

/-- The filter that stands in for the setting. -/
def filter? (around : Surroundings) : Option String :=
  (around.filterName?.bind fun name => around.loaded.1.lookup name).filter fun filter =>
    (LogFilter.fault? filter).isNone

def stage {α ε : Type} (stage : StartStage) (toError : ε → ServiceError) :
    Except ε α → Except StartFault α :=
  Except.mapError fun fault => ⟨stage, toError fault⟩

/-- The settings, and how to reach the vault. -/
def prepare (around : Surroundings) : Except StartFault (Settings × Connection) := do
  let settings ← stage .configuration Settings.Fault.error (Settings.read around.loaded.1)
  stage .observability id (LogFilter.check (around.filter?.getD settings.observability.logLevel))
  let connection ← stage .strategy Settings.Fault.error settings.vault.connection
  return (settings, connection)

end Surroundings
end SecretBroker
