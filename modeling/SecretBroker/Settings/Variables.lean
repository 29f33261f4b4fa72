import SecretBroker.Settings.Fault
import SecretBroker.Text.Fold

/-!
The variables that settings are given by. Names are folded to lower case, and empty values count
as not given. A name may also be a path into a setting, by `.name` or by `[index]`; such a
setting has parts and is no text.
-/

namespace SecretBroker.Settings

abbrev Variables := List (String × String)

/-- The names of the settings that are read. -/
def settingNames : List String :=
  ["api_port", "api_bind_address", "environment", "api_key", "allowed_ips",
   "enable_github_ip_ranges", "github_ip_refresh", "trust_forwarded_for", "rate_limit_per_minute",
   "read_timeout", "write_timeout", "cors_allowed_origins", "vaultwarden_url",
   "vaultwarden_auth_mode", "vaultwarden_client_id", "vaultwarden_client_secret",
   "vaultwarden_access_token", "vaultwarden_master_password", "vaultwarden_email",
   "vaultwarden_session_refresh", "bw_cli_path", "cache_ttl", "log_level", "log_format",
   "enable_metrics"]

def isNameChar (c : Char) : Bool :=
  Text.isAsciiAlphanumeric c || c = '_' || c = '-' || c = ' '

def isGap (c : Char) : Bool := c = ' ' || c = '\t'

/-- Digits with an optional minus sign, within 64 bits, and blanks around them. -/
def isIndex (inside : List Char) : Bool :=
  let text := ((inside.dropWhile isGap).reverse.dropWhile isGap).reverse
  let digits := if text.head? = some '-' then text.drop 1 else text
  !digits.isEmpty && digits.all Text.isAsciiDigit &&
    digits.foldl (fun n c => n * 10 + (c.toNat - '0'.toNat)) 0 ≤ 0x7fffffffffffffff

/-- The steps of a path behind its first name. -/
def pathShapes : Nat → List Char → Option (List Shape)
  | _, [] => some []
  | 0, _ :: _ => none
  | fuel + 1, '.' :: rest =>
    if (rest.takeWhile isNameChar).isEmpty then none
    else (pathShapes fuel (rest.dropWhile isNameChar)).map (Shape.map :: ·)
  | fuel + 1, '[' :: rest =>
    match rest.dropWhile (· ≠ ']') with
    | [] => none
    | _ :: after =>
      if isIndex (rest.takeWhile (· ≠ ']')) then (pathShapes fuel after).map (Shape.sequence :: ·)
      else none
  | _ + 1, _ :: _ => none

/-- The setting that a name leads into, and the shape that this gives it. -/
def partOf? (name : String) : Option (String × Shape) :=
  let chars := name.toList
  match pathShapes chars.length (chars.dropWhile isNameChar) with
  | some (shape :: _) => some (String.ofList (chars.takeWhile isNameChar), shape)
  | _ => none

namespace Variables

/-- Folded names, without the empty values. -/
def given (found : Variables) : Variables :=
  (found.filter (·.2 ≠ "")).map fun (name, value) => (Text.lower name, value)

def shape? (given : Variables) (key : String) : Option Shape :=
  given.findSome? fun (name, _) =>
    match partOf? name with
    | some (whole, shape) => if whole = key then some shape else none
    | none => none

def text? (given : Variables) (key : String) : Option String :=
  (given.find? (·.1 = key)).map (·.2)

/-- The first setting, in their order, that is no text. -/
def shapeFault? (given : Variables) : Option Fault :=
  settingNames.findSome? fun key => (shape? given key).map fun shape => .nested shape key

end Variables
end SecretBroker.Settings
