import SecretBroker.Cache

/-!
The sweeper of a cache ticks at every whole multiple of the lifetime after its start and drops
what has expired. Clocks wake sleepers at whole milliseconds, so a tick happens on the first
one that is not before it.
-/

namespace SecretBroker

structure Sweeper where
  start : Instant
  period : Span
  deriving DecidableEq, Repr

namespace Sweeper

/-- The sweeper of a cache made now: there is none without a lifetime, nor one whose first tick
is no instant. -/
def start? (cache : Cache) (now : Instant) : Option Sweeper :=
  if cache.isEnabled && (Instant.after now cache.ttl).isSome then some ⟨now, cache.ttl⟩ else none

/-- When the tick of a number is due. -/
def due (sweeper : Sweeper) (tick : Nat) : Instant := sweeper.start + tick * sweeper.period.total

/-- The number of ticks due up to an instant. -/
def ticks (sweeper : Sweeper) (now : Instant) : Nat := (now - sweeper.start) / sweeper.period.total

/-- The cache after all ticks up to an instant at a whole millisecond. What one tick drops, all
later ones would drop as well, so the last one is enough. -/
def sweepUpTo (sweeper : Sweeper) (cache : Cache) (now : Instant) : Cache :=
  if sweeper.ticks now = 0 then cache
  else cache.sweep (Instant.wake (sweeper.due (sweeper.ticks now)))

end Sweeper

/-- A cache and its sweeper, if one runs. -/
structure TendedCache where
  cache : Cache
  sweeper : Option Sweeper
  deriving DecidableEq

namespace TendedCache

def start (ttl : Span) (now : Instant) : TendedCache :=
  ⟨.empty ttl, Sweeper.start? (.empty ttl) now⟩

def stop (tended : TendedCache) : TendedCache := { tended with sweeper := none }

/-- The cache once the sweeper has done what is due up to an instant. -/
def sweepUpTo (tended : TendedCache) (now : Instant) : TendedCache :=
  match tended.sweeper with
  | some sweeper => { tended with cache := sweeper.sweepUpTo tended.cache now }
  | none => tended

end TendedCache
end SecretBroker
