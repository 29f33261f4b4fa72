/-!
Secret text. Wherever a secret is shown it shows a fixed mark instead of its text; only
`reveal` gives the text away.
-/

namespace SecretBroker

structure Secret where
  reveal : String
  deriving DecidableEq, Inhabited

namespace Secret

def mark : String := "[REDACTED]"

/-- What a message that includes the secret shows. -/
def display (_ : Secret) : String := mark

/-- What a dump of a structure that holds the secret shows. -/
def debug (secret : Secret) : String := "SecretString(" ++ secret.display ++ ")"

/-- What serialised data that includes the secret holds. -/
def serialised (secret : Secret) : String := secret.display

/-- The length of the text in bytes. -/
def size (secret : Secret) : Nat := secret.reveal.utf8ByteSize

def isEmpty (secret : Secret) : Bool := secret.reveal.isEmpty

end Secret
end SecretBroker
