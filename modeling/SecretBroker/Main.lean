import SecretBroker.Startup

/-!
The command line: checks the surroundings that the service would start in, and reports what is
wrong with them.
-/

open SecretBroker

/-- The variables of the process that name settings, as they are usually spelled. -/
def settingVariables : IO DotEnv.Variables :=
  Settings.settingNames.filterMapM fun name => do
    let name := name.toUpper
    return (← IO.getEnv name).map (name, ·)

def variablesFile : IO (Option String) :=
  try return some (← IO.FS.readFile ".env") catch _ => return none

def main : IO UInt32 := do
  let around : Surroundings := ⟨← settingVariables, ← variablesFile, none⟩
  let errors ← IO.getStderr
  errors.putStr around.warning
  match around.prepare with
  | .ok _ => return 0
  | .error fault =>
    errors.putStr fault.report
    return 1
