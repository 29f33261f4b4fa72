import SecretBroker.ServiceError
import SecretBroker.Span.Text
import SecretBroker.Text.Unsigned

/-!
What can be wrong with the settings.
-/

namespace SecretBroker.Settings

/-- A value that is not a text but holds others, in sequence or by name. -/
inductive Shape where
  | sequence
  | map
  deriving DecidableEq, Repr

def Shape.word : Shape → String
  | .sequence => "sequence"
  | .map => "map"

/-- A setting outside its limits. -/
inductive Limit where
  | corsOrigins
  | rateLimit
  | bindAddress
  | tcpPort
  | baseUrl
  | cliPath
  deriving DecidableEq, Repr

def Limit.message : Limit → String
  | .corsOrigins => "security.cors_allowed_origins: At least one CORS origin is required"
  | .rateLimit => "security.rate_limit_per_minute: Rate limit must be between 1 and 100000"
  | .bindAddress => "server.bind_address: Bind address cannot be empty"
  | .tcpPort => "server.port: Port must be between 1 and 65535"
  | .baseUrl => "vault.base_url: VAULTWARDEN_URL must be a valid URL"
  | .cliPath => "vault.cli_path: BW_CLI_PATH cannot be empty"

/-- The shortest key that callers may be asked for, in bytes. -/
def minApiKeySize : Nat := 32

inductive Fault where
  | nested (shape : Shape) (key : String)
  | missing (key : String)
  | number (key text : String) (fault : Text.NumberFault)
  | flag (key word : String)
  | span (key text : String) (fault : Span.Text.Fault)
  | network (entry : String)
  | authMode (word : String)
  | limits (found : List Limit)
  | shortApiKey
  | scheme
  | noTimeout
  | noRefreshPeriod
  | noApiCredentials
  | noCliAccess
  | noCliLogin
  deriving DecidableEq, Repr

namespace Fault

def reason : Fault → String
  | .nested shape key =>
    "invalid type: " ++ shape.word ++ ", expected a string for key `" ++ key ++ "`"
  | .missing key => key ++ " is required"
  | .number key text fault =>
    "Invalid " ++ key ++ " '" ++ text ++ "': " ++ fault.message
  | .flag key word => "Invalid " ++ key ++ " '" ++ word ++ "': expected true or false"
  | .span key text fault =>
    "Invalid " ++ key ++ " '" ++ text ++ "': " ++ fault.message
  | .network entry => "Invalid IP or CIDR in ALLOWED_IPS: '" ++ entry ++ "'"
  | .authMode word =>
    "VAULTWARDEN_AUTH_MODE must be one of auto, api, cli (got '" ++ word ++ "')"
  | .limits found => "\n".intercalate (found.map Limit.message)
  | .shortApiKey => "API_KEY must be at least " ++ toString minApiKeySize ++ " characters long"
  | .scheme => "VAULTWARDEN_URL must use http:// or https://"
  | .noTimeout => "READ_TIMEOUT and WRITE_TIMEOUT cannot both be zero"
  | .noRefreshPeriod => "GITHUB_IP_REFRESH must be greater than zero"
  | .noApiCredentials =>
    "VAULTWARDEN_CLIENT_ID and VAULTWARDEN_CLIENT_SECRET are required in api mode"
  | .noCliAccess => "CLI mode needs VAULTWARDEN_ACCESS_TOKEN or VAULTWARDEN_MASTER_PASSWORD"
  | .noCliLogin => "CLI bootstrap needs VAULTWARDEN_EMAIL or VAULTWARDEN_CLIENT_ID/SECRET to log in"

def error (fault : Fault) : ServiceError := .config fault.reason

/-- The fault ends the program instead of being told. -/
def aborts : Fault → Bool
  | .span _ _ .carriedPastEnd => true
  | _ => false

end Fault
end SecretBroker.Settings
