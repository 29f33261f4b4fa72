import SecretBroker.Secret
import SecretBroker.Span

/-!
A cache of looked up secrets. An entry is served until its expiry instant and no longer. Every
clear starts a new generation, and a lookup that began in an older one writes nothing back.
-/

namespace SecretBroker

structure Cached where
  value : Secret
  /-- From this instant on the value is not served. -/
  expiry : Instant
  deriving DecidableEq

def Cached.isExpired (entry : Cached) (now : Instant) : Bool := entry.expiry ≤ now

structure Cache where
  ttl : Span
  /-- Entries by name, each name at most once, the latest written first. -/
  entries : List (String × Cached)
  /-- The number of clears. -/
  generation : Nat
  /-- Set by a write whose expiry is no instant; the entries are out of reach from then on. -/
  broken : Bool
  deriving DecidableEq

namespace Cache

def empty (ttl : Span) : Cache := ⟨ttl, [], 0, false⟩

/-- With a lifetime of zero nothing is cached. -/
def isEnabled (cache : Cache) : Bool := !cache.ttl.isZero

def entry? (cache : Cache) (name : String) : Option Cached :=
  (cache.entries.find? (·.1 = name)).map (·.2)

/-- What a read finds; only a hit and a miss are counted. -/
inductive Reading where
  | hit (value : Secret)
  | miss
  | off
  deriving DecidableEq

def Reading.value? : Reading → Option Secret
  | .hit value => some value
  | .miss | .off => none

def read (cache : Cache) (name : String) (now : Instant) : Reading :=
  if !cache.isEnabled || cache.broken then .off
  else
    match cache.entry? name with
    | some entry => if entry.isExpired now then .miss else .hit entry.value
    | none => .miss

def get (cache : Cache) (name : String) (now : Instant) : Option Secret :=
  (cache.read name now).value?

/-- What a write does. One that cannot tell when its entry expires breaks the cache. -/
inductive Writing where
  | stored
  | skipped
  | failed
  deriving DecidableEq, Repr

def insert (cache : Cache) (name : String) (entry : Cached) : Cache :=
  { cache with entries := (name, entry) :: cache.entries.filter (·.1 ≠ name) }

def store (cache : Cache) (name : String) (value : Secret) (now : Instant) : Cache × Writing :=
  match Instant.after now cache.ttl with
  | some expiry => (cache.insert name ⟨value, expiry⟩, .stored)
  | none => ({ cache with broken := true }, .failed)

def put (cache : Cache) (name : String) (value : Secret) (now : Instant) : Cache × Writing :=
  if !cache.isEnabled || cache.broken then (cache, .skipped) else cache.store name value now

/-- Writes only if no clear happened since the generation was read. -/
def putIfCurrent (cache : Cache) (name : String) (value : Secret) (generation : Nat)
    (now : Instant) : Cache × Writing :=
  if !cache.isEnabled || cache.broken || cache.generation ≠ generation then (cache, .skipped)
  else cache.store name value now

/-- The number of entries held, expired ones included. -/
def size (cache : Cache) : Nat := if cache.broken then 0 else cache.entries.length

/-- Drops all entries and starts a generation; also tells how many they were. -/
def clear (cache : Cache) : Cache × Nat :=
  if cache.broken then (cache, 0)
  else ({ cache with entries := [], generation := cache.generation + 1 }, cache.size)

/-- Drops the expired entries. -/
def sweep (cache : Cache) (now : Instant) : Cache :=
  if cache.broken then cache
  else { cache with entries := cache.entries.filter fun held => !held.2.isExpired now }

/-- A sweep that tells how many entries it dropped. -/
def cleanup (cache : Cache) (now : Instant) : Cache × Nat :=
  (cache.sweep now, cache.size - (cache.sweep now).size)

end Cache
end SecretBroker
