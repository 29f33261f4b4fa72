import SecretBroker.VaultError

/-!
Failures of the service outside a request: its configuration, its sockets, and the first
connection to the vault.
-/

namespace SecretBroker

inductive ServiceError where
  | config (reason : String)
  | transport (reason : String)
  | io (reason : String)
  | vault (error : VaultError)
  | internal (reason : String)
  deriving DecidableEq, Repr

namespace ServiceError

def label : ServiceError → String
  | .config _ => "config"
  | .transport _ => "transport"
  | .io _ => "io"
  | .vault error => error.kind.label
  | .internal _ => "internal"

def message : ServiceError → String
  | .config reason => "Configuration error: " ++ reason
  | .transport reason => "Transport error: " ++ reason
  | .io reason => "I/O error: " ++ reason
  | .vault error => error.message
  | .internal reason => "Internal error: " ++ reason

end ServiceError
end SecretBroker
