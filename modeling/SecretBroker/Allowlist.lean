import SecretBroker.Net.Network

/-!
Which client addresses may ask for secrets: networks from the settings and, where that is
enabled, ranges that are published elsewhere and replaced as a whole.
-/

namespace SecretBroker

structure Allowlist where
  fixed : List Net.Network
  publishedEnabled : Bool
  published : List Net.Network
  deriving DecidableEq, Repr

namespace Allowlist

def new (fixed : List Net.Network) (publishedEnabled : Bool) : Allowlist :=
  ⟨fixed, publishedEnabled, []⟩

/-- Published ranges restrict access even before the first of them are known. -/
def isRestricted (list : Allowlist) : Bool := !list.fixed.isEmpty || list.publishedEnabled

def admits (list : Allowlist) (address : Net.Address) : Bool :=
  !list.isRestricted
    || list.fixed.any (·.contains address.canonical)
    || list.published.any (·.contains address.canonical)

/-- A client whose address is unknown gets in only where everyone does. -/
def admitsClient (list : Allowlist) (client : Option Net.Address) : Bool :=
  !list.isRestricted || client.any list.admits

def replacePublished (list : Allowlist) (ranges : List Net.Network) : Allowlist :=
  { list with published := ranges }

end Allowlist
end SecretBroker
