import SecretBroker.Net.Url
import SecretBroker.Settings.Read

/-!
Checks across the settings, and the choice of how to reach the vault. Main definitions:
`Settings.read`, which accepts or names a fault, and `VaultSettings.strategy`.
-/

namespace SecretBroker

namespace VaultSettings

def credentials (vault : VaultSettings) : Option Credentials :=
  match vault.clientId, vault.clientSecret with
  | some clientId, some clientSecret => some ⟨clientId, clientSecret⟩
  | _, _ => none

/-- With a session at hand no login is needed; otherwise client credentials come before an
e-mail address. -/
def cliStrategy (vault : VaultSettings) (credentials : Option Credentials) :
    Except Settings.Fault Strategy :=
  match vault.accessToken, vault.masterPassword with
  | some session, _ => .ok (.cliSession session)
  | none, none => .error .noCliAccess
  | none, some masterPassword =>
    match credentials, vault.email with
    | some credentials, _ => .ok (.cliBootstrap (.apiKey credentials) masterPassword)
    | none, some email => .ok (.cliBootstrap (.password email) masterPassword)
    | none, none => .error .noCliLogin

def strategy (vault : VaultSettings) : Except Settings.Fault Strategy :=
  match vault.authMode, vault.credentials with
  | .api, none => .error .noApiCredentials
  | .api, some credentials | .auto, some credentials => .ok (.api credentials)
  | .cli, credentials => vault.cliStrategy credentials
  | .auto, none => vault.cliStrategy none

def connection (vault : VaultSettings) : Except Settings.Fault Connection := do
  return { baseUrl := vault.baseUrl, strategy := ← vault.strategy, cacheTtl := vault.cacheTtl,
           cliPath := vault.cliPath, sessionRefresh := vault.sessionRefresh }

end VaultSettings

namespace Settings

/-- Every setting outside its limits, ordered by its path. -/
def limitFaults (settings : Settings) : List Limit :=
  let rate := settings.security.ratePerMinute
  (if settings.security.corsOrigins.isEmpty then [.corsOrigins] else []) ++
  (if 1 ≤ rate ∧ rate ≤ 100000 then [] else [.rateLimit]) ++
  (if settings.server.bindAddress.isEmpty then [.bindAddress] else []) ++
  (if settings.server.tcpPort = 0 then [.tcpPort] else []) ++
  (if Net.Url.isValid settings.vault.baseUrl then [] else [.baseUrl]) ++
  (if settings.vault.cliPath.isEmpty then [.cliPath] else [])

def hasWebScheme (url : String) : Bool :=
  "http://".toList.isPrefixOf url.toList || "https://".toList.isPrefixOf url.toList

def check (settings : Settings) : Except Fault Unit := do
  match settings.limitFaults with
  | [] => pure ()
  | limits => throw (.limits limits)
  if settings.security.apiKey.size < minApiKeySize then throw .shortApiKey
  if !hasWebScheme settings.vault.baseUrl then throw .scheme
  if settings.server.requestTimeout.isZero then throw .noTimeout
  if settings.security.githubRanges && settings.security.githubRefresh.isZero then
    throw .noRefreshPeriod
  let _ ← settings.vault.strategy

/-- The settings that the variables give, or the first fault among them. -/
def read (found : Variables) : Except Fault Settings := do
  let given := found.given
  match given.shapeFault? with
  | some fault => throw fault
  | none => pure ()
  let settings ← typed given
  settings.check
  return settings

end Settings
end SecretBroker
