import SecretBroker.Net.Address
import SecretBroker.ServiceError

/-!
Where the service listens: an address and a TCP number in one text, and what the host says to it.
-/

namespace SecretBroker.Http

/-- What the host says when something is about to listen at an address. -/
inductive Standing where
  | free
  | taken
  /-- The address belongs to another host. -/
  | foreign
  deriving DecidableEq, Repr

def Standing.fault? : Standing → Option ServiceError
  | .free => none
  | .taken => some (bindFailure "Address already in use (os error 98)")
  | .foreign => some (bindFailure "Cannot assign requested address (os error 99)")
where
  bindFailure (reason : String) : ServiceError :=
    .transport ("Failed to bind API server: " ++ reason)

/-- The address to listen at, if the text has one and the host gives it. -/
def listenAt (endpoint : String) (standing : Net.Address → Standing) :
    Except ServiceError (Net.Address × Nat) :=
  match Net.endpoint? endpoint with
  | none => .error (.config "Invalid API address: invalid socket address syntax")
  | some (address, number) =>
    match (standing address).fault? with
    | some fault => .error fault
    | none => .ok (address, number)

end SecretBroker.Http
