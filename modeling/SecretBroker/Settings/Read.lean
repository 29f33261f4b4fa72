import SecretBroker.Settings
import SecretBroker.Settings.Variables
import SecretBroker.Text.Blank

/-!
Typing the settings: each is read by its kind, with a default for what is not given. The first
fault in the order below is told.
-/

namespace SecretBroker.Settings

def readNumber (key : String) (bound default : Nat) : Option String → Except Fault Nat
  | none => .ok default
  | some text =>
    match Text.unsigned bound (Text.trim text) with
    | .ok n => .ok n
    | .error fault => .error (.number key text fault)

def readFlag (key : String) (default : Bool) : Option String → Except Fault Bool
  | none => .ok default
  | some text =>
    let word := Text.foldAscii (Text.trim text)
    if ["1", "true", "yes", "on"].contains word then .ok true
    else if ["0", "false", "no", "off"].contains word then .ok false
    else .error (.flag key word)

/-- A bare zero needs no unit. -/
def readSpan (key : String) (default : Span) : Option String → Except Fault Span
  | none => .ok default
  | some text =>
    let trimmed := Text.trim text
    if trimmed = "0" then .ok Span.zero
    else
      match Span.Text.read trimmed with
      | .ok span => .ok span
      | .error fault => .error (.span key trimmed fault)

def readNetworks (text : String) : Except Fault (List Net.Network) :=
  match Net.Network.readList text with
  | .ok networks => .ok networks
  | .error entry => .error (.network entry)

def readAuthMode (text : String) : Except Fault AuthMode :=
  let word := Text.foldAscii text
  if word = "" || word = "auto" then .ok .auto
  else if word = "api" then .ok .api
  else if word = "cli" then .ok .cli
  else .error (.authMode word)

def require (key : String) : Option String → Except Fault String
  | some text => .ok text
  | none => .error (.missing key)

/-- The settings that are given, before any check across them. -/
def typed (given : Variables) : Except Fault Settings := do
  let text? := given.text?
  let readTimeout ← readSpan "READ_TIMEOUT" (.ofSeconds 10) (text? "read_timeout")
  let writeTimeout ← readSpan "WRITE_TIMEOUT" (.ofSeconds 10) (text? "write_timeout")
  let tcpPort ← readNumber "API_PORT" 65535 8080 (text? "api_port")
  let server : ServerSettings :=
    { bindAddress := (text? "api_bind_address").getD "0.0.0.0"
      tcpPort
      requestTimeout := readTimeout.longer writeTimeout
      environment := .ofWord ((text? "environment").getD "development") }
  let apiKey ← require "API_KEY" (text? "api_key")
  let allowedNetworks ← readNetworks ((text? "allowed_ips").getD "")
  let githubRanges ← readFlag "ENABLE_GITHUB_IP_RANGES" false (text? "enable_github_ip_ranges")
  let githubRefresh ← readSpan "GITHUB_IP_REFRESH" (.ofSeconds 86400) (text? "github_ip_refresh")
  let trustForwarded ← readFlag "TRUST_FORWARDED_FOR" false (text? "trust_forwarded_for")
  let ratePerMinute ←
    readNumber "RATE_LIMIT_PER_MINUTE" 0xffffffff 30 (text? "rate_limit_per_minute")
  let corsOrigins :=
    Text.commaList ((text? "cors_allowed_origins").getD "http://localhost:3000")
  let security : SecuritySettings :=
    { apiKey := ⟨apiKey⟩, allowedNetworks, githubRanges, githubRefresh, trustForwarded,
      ratePerMinute, corsOrigins }
  let baseUrl ← require "VAULTWARDEN_URL" (text? "vaultwarden_url")
  let authMode ← readAuthMode ((text? "vaultwarden_auth_mode").getD "auto")
  let sessionRefresh ←
    readSpan "VAULTWARDEN_SESSION_REFRESH" (.ofSeconds 21600) (text? "vaultwarden_session_refresh")
  let cacheTtl ← readSpan "CACHE_TTL" (.ofSeconds 300) (text? "cache_ttl")
  let vault : VaultSettings :=
    { baseUrl := Text.dropTrailing '/' baseUrl
      authMode
      clientId := text? "vaultwarden_client_id"
      clientSecret := (text? "vaultwarden_client_secret").map Secret.mk
      accessToken := (text? "vaultwarden_access_token").map Secret.mk
      masterPassword := (text? "vaultwarden_master_password").map Secret.mk
      email := text? "vaultwarden_email"
      cliPath := (text? "bw_cli_path").getD "bw"
      sessionRefresh
      cacheTtl }
  let metrics ← readFlag "ENABLE_METRICS" false (text? "enable_metrics")
  let observability : ObservabilitySettings :=
    { serviceName
      logLevel := (text? "log_level").getD "info"
      jsonLogging := (text? "log_format").any (Text.eqIgnoringCase · "json")
      metrics }
  return { server, security, vault, observability }

end SecretBroker.Settings
