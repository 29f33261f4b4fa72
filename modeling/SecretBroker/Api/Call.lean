import SecretBroker.VaultError

/-!
Calls to a web service, and what comes back: an answer, whole or broken off, or the reason why
there is none.
-/

namespace SecretBroker.Api

structure Call where
  method : String
  url : String
  headers : List (String × String)
  body : String
  deriving DecidableEq, Repr

inductive CallFault where
  | timedOut
  | unreachable
  /-- The call could not be made, or the connection ended without an answer. -/
  | failed
  deriving DecidableEq, Repr

def CallFault.reason : CallFault → String
  | .timedOut => "request timed out"
  | .unreachable => "connection failed"
  | .failed => "request failed"

def CallFault.error (fault : CallFault) : VaultError := .transport fault.reason

inductive Delivery where
  | none (fault : CallFault)
  /-- The body is missing if it broke off before its end. -/
  | answer (status : Nat) (body : Option (List UInt8))
  deriving DecidableEq, Repr

end SecretBroker.Api
