import SecretBroker.Digest.Base64
import SecretBroker.Digest.Sha256
import SecretBroker.Secret
import SecretBroker.Span
import SecretBroker.Text.Utf8

/-!
Bearer tokens. A token is given up some minutes before the vault would refuse it.
-/

namespace SecretBroker

structure Credentials where
  clientId : String
  clientSecret : Secret
  deriving DecidableEq

structure Token where
  secret : Secret
  /-- From this instant on the token is not used any more. -/
  expiry : Instant
  deriving DecidableEq

namespace Token

/-- How long before its end a token is given up. -/
def margin : Span := .ofSeconds 300

/-- A token granted for a lifetime from an instant; `none` when its end is no instant. -/
def granted (secret : Secret) (lifetime : Span) (issued : Instant) : Option Token :=
  (Instant.after issued (lifetime.dropUpTo margin)).map fun expiry => ⟨secret, expiry⟩

def isFresh (token : Token) (now : Instant) : Bool := now < token.expiry

end Token

/-- A stable identifier of the client as a device: half a digest of its name, in base64. -/
def deviceIdentifier (clientId : String) : String :=
  Digest.base64 ((Digest.sha256 (Text.utf8 clientId)).take 16)

end SecretBroker
