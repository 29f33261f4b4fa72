import SecretBroker.Cache.Sweeper
import SecretBroker.Counter
import SecretBroker.VaultError

/-!
Resolving a name: the cache answers if it can, otherwise the vault is asked and its answer is
written back. The two halves of a lookup are separate steps, because others may resolve, clear
and sweep while the vault takes its time. A lookup that is given up leaves nothing behind.
-/

namespace SecretBroker

/-- A lookup whose fetch has begun. -/
structure Lookup where
  name : String
  /-- The cache's generation when the lookup began. -/
  generation : Nat
  deriving DecidableEq, Repr

/-- What the first half of a resolve comes to. -/
inductive Resolving where
  | answered (answer : Answer Secret)
  | fetching (lookup : Lookup)

structure Resolver where
  shelf : TendedCache
  tally : Tally

namespace Resolver

def start (ttl : Span) (now : Instant) : Resolver := ⟨.start ttl now, []⟩

def cache (resolver : Resolver) : Cache := resolver.shelf.cache

def withCache (resolver : Resolver) (cache : Cache) : Resolver :=
  { resolver with shelf := { resolver.shelf with cache } }

def count (resolver : Resolver) (counters : List Counter) : Resolver :=
  { resolver with tally := counters ++ resolver.tally }

def emptyName : VaultError := .invalidInput "secret name cannot be empty"

/-- Reads the cache, and the generation with it. -/
def begin (resolver : Resolver) (name : String) (now : Instant) : Resolver × Resolving :=
  if name.isEmpty then (resolver, .answered (.error emptyName))
  else
    let reading := resolver.cache.read name now
    (resolver.count (Counter.ofReading reading),
      match reading with
      | .hit value => .answered (.ok value)
      | .miss | .off => .fetching ⟨name, resolver.cache.generation⟩)

/-- Takes the vault's answer to a lookup. Only a value is written back; there is no answer to
the caller if that write fails. -/
def finish (resolver : Resolver) (lookup : Lookup) (answer : Answer Secret) (now : Instant) :
    Resolver × Option (Answer Secret) :=
  match answer with
  | .error error => (resolver.count [.lookup (some error.kind)], some answer)
  | .ok value =>
    let (cache, written) := resolver.cache.putIfCurrent lookup.name value lookup.generation now
    ((resolver.withCache cache).count [.lookup none],
      if written = .failed then none else some answer)

/-- Drops every cached value and tells how many there were. -/
def invalidate (resolver : Resolver) : Resolver × Nat :=
  let (cache, removed) := resolver.cache.clear
  (resolver.withCache cache, removed)

/-- What the sweeper has done up to an instant. -/
def sweepUpTo (resolver : Resolver) (now : Instant) : Resolver :=
  { resolver with shelf := resolver.shelf.sweepUpTo now }

def stop (resolver : Resolver) : Resolver := { resolver with shelf := resolver.shelf.stop }

end Resolver
end SecretBroker
