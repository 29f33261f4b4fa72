/-!
Why a lookup in the vault failed. The texts carry statuses, names and structural reasons only;
nothing that the vault sent is part of them.
-/

namespace SecretBroker

inductive VaultError where
  | invalidInput (reason : String)
  | authFailure (reason : String)
  | authRejected (status : Nat)
  | transport (reason : String)
  | notFound (name : String)
  | noValue (name : String)
  | vaultStatus (status : Nat)
  | invalidResponse (reason : String)
  deriving DecidableEq, Repr, Inhabited

namespace VaultError

/-- The class of a failure, as counters label it. -/
inductive Kind where
  | invalidInput
  | authFailure
  | transport
  | notFound
  | noValue
  | vaultStatus
  | invalidResponse
  deriving DecidableEq, Repr, Inhabited

def Kind.label : Kind → String
  | .invalidInput => "invalid_input"
  | .authFailure => "auth_failure"
  | .transport => "transport_failure"
  | .notFound => "not_found"
  | .noValue => "no_value"
  | .vaultStatus => "upstream_error"
  | .invalidResponse => "invalid_response"

def kind : VaultError → Kind
  | .invalidInput _ => .invalidInput
  | .authFailure _ | .authRejected _ => .authFailure
  | .transport _ => .transport
  | .notFound _ => .notFound
  | .noValue _ => .noValue
  | .vaultStatus _ => .vaultStatus
  | .invalidResponse _ => .invalidResponse

def message : VaultError → String
  | .invalidInput reason => "Invalid input: " ++ reason
  | .authFailure reason => "Authentication failed: " ++ reason
  | .authRejected status => "Authentication failed with status " ++ toString status
  | .transport reason => "Transport failure: " ++ reason
  | .notFound name => "Secret not found: " ++ name
  | .noValue name => "No extractable value for secret: " ++ name
  | .vaultStatus status => "Upstream returned status " ++ toString status
  | .invalidResponse reason => "Invalid upstream response: " ++ reason

end VaultError

/-- The result of a call on the vault. -/
abbrev Answer (α : Type) := Except VaultError α

instance decidableEqAnswer {α : Type} [DecidableEq α] : DecidableEq (Answer α)
  | .ok one, .ok other => decidable_of_iff (one = other) (by simp)
  | .error one, .error other => decidable_of_iff (one = other) (by simp)
  | .ok _, .error _ => isFalse (by simp)
  | .error _, .ok _ => isFalse (by simp)

end SecretBroker
