import SecretBroker.Net.Network
import SecretBroker.Secret
import SecretBroker.Span
import SecretBroker.Text.Fold
import SecretBroker.Token

/-!
The settings of the service, once they are read and typed, and the ways to reach the vault that
they can choose.
-/

namespace SecretBroker

/-- The name under which the service shows itself to callers and counters. -/
def serviceName : String := "vaultwarden-api"

inductive Environment where
  | development
  | production
  deriving DecidableEq, Repr

namespace Environment

/-- Every word but `production` means development. -/
def ofWord (word : String) : Environment :=
  if Text.eqIgnoringCase word "production" then .production else .development

def word : Environment → String
  | .development => "development"
  | .production => "production"

def isProduction (environment : Environment) : Bool := environment == .production

end Environment

inductive AuthMode where
  | auto
  | api
  | cli
  deriving DecidableEq, Repr

structure ServerSettings where
  bindAddress : String
  tcpPort : Nat
  requestTimeout : Span
  environment : Environment
  deriving DecidableEq

def ServerSettings.endpoint (server : ServerSettings) : String :=
  server.bindAddress ++ ":" ++ toString server.tcpPort

structure SecuritySettings where
  apiKey : Secret
  allowedNetworks : List Net.Network
  githubRanges : Bool
  githubRefresh : Span
  trustForwarded : Bool
  ratePerMinute : Nat
  corsOrigins : List String
  deriving DecidableEq

structure VaultSettings where
  baseUrl : String
  authMode : AuthMode
  clientId : Option String
  clientSecret : Option Secret
  accessToken : Option Secret
  masterPassword : Option Secret
  email : Option String
  cliPath : String
  sessionRefresh : Span
  cacheTtl : Span
  deriving DecidableEq

structure ObservabilitySettings where
  serviceName : String
  logLevel : String
  jsonLogging : Bool
  metrics : Bool
  deriving DecidableEq

structure Settings where
  server : ServerSettings
  security : SecuritySettings
  vault : VaultSettings
  observability : ObservabilitySettings
  deriving DecidableEq

/-- How the command line client logs in. -/
inductive LoginMethod where
  | apiKey (credentials : Credentials)
  | password (email : String)
  deriving DecidableEq

/-- How the service reaches the vault. -/
inductive Strategy where
  | api (credentials : Credentials)
  | cliSession (session : Secret)
  | cliBootstrap (login : LoginMethod) (masterPassword : Secret)
  deriving DecidableEq

def Strategy.label : Strategy → String
  | .api _ => "api"
  | .cliSession _ => "cli_session"
  | .cliBootstrap _ _ => "cli_bootstrap"

/-- What is needed to connect to the vault. -/
structure Connection where
  baseUrl : String
  strategy : Strategy
  cacheTtl : Span
  cliPath : String
  sessionRefresh : Span
  deriving DecidableEq

end SecretBroker
