import SecretBroker.RateLimit.Quantity
import Std.Data.HashMap

/-!
Rate limiting with one token bucket for each client. A bucket starts full, refills steadily up
to its capacity, and a request takes one token. Where many clients are tracked, the buckets
that have refilled are forgotten before a new one is made: a full bucket answers like none.
-/

namespace SecretBroker.RateLimit

structure Bucket (R : Type) where
  tokens : R
  refilled : Instant
  deriving Repr

structure Policy where
  capacity : Nat
  /-- How long an empty bucket takes to fill up. -/
  period : Span
  deriving DecidableEq, Repr

def Policy.perMinute (capacity : Nat) : Policy := ⟨capacity, .ofSeconds 60⟩

/-- What a check says; a refusal tells after how many seconds to come again. -/
inductive Verdict where
  | granted
  | refused (retryAfter : Nat)
  deriving DecidableEq, Repr

variable {R : Type} [Quantity R]

open Quantity

namespace Policy

def full (policy : Policy) : R := ofNat policy.capacity

/-- Tokens for each second. -/
def rate (policy : Policy) : R := div policy.full (ofSpan policy.period)

end Policy

namespace Bucket

def new (policy : Policy) (now : Instant) : Bucket R := ⟨policy.full, now⟩

def refill (policy : Policy) (bucket : Bucket R) (now : Instant) : Bucket R :=
  let elapsed : R := ofSpan (.ofNanos (now - bucket.refilled))
  ⟨min (add bucket.tokens (mul elapsed policy.rate)) policy.full, now⟩

def isFull (policy : Policy) (bucket : Bucket R) : Bool := le policy.full bucket.tokens

/-- Whole seconds until a token has gathered, and never less than one. -/
def retryAfter (policy : Policy) (bucket : Bucket R) : Nat :=
  Nat.max 1 (ceil (div (sub (ofNat 1) bucket.tokens) policy.rate : R))

def take (policy : Policy) (bucket : Bucket R) (now : Instant) : Bucket R × Verdict :=
  let bucket := bucket.refill policy now
  if le (ofNat 1) bucket.tokens then ({ bucket with tokens := sub bucket.tokens (ofNat 1) }, .granted)
  else (bucket, .refused (bucket.retryAfter policy))

end Bucket

/-- From this number of buckets on, full ones are forgotten. -/
def trackedBound : Nat := 10000

structure Limiter (R : Type) where
  policy : Policy
  buckets : Std.HashMap String (Bucket R)

namespace Limiter

def new (policy : Policy) : Limiter R := ⟨policy, ∅⟩

def tracked (limiter : Limiter R) : Nat := limiter.buckets.size

def prune (limiter : Limiter R) (now : Instant) : Limiter R :=
  { limiter with
    buckets := (limiter.buckets.map fun _ bucket => bucket.refill limiter.policy now).filter
      fun _ bucket => !bucket.isFull limiter.policy }

/-- Room for a key's bucket: pruned if the key is new and many are tracked. -/
def roomFor (limiter : Limiter R) (key : String) (now : Instant) : Limiter R :=
  if trackedBound ≤ limiter.tracked && !limiter.buckets.contains key then limiter.prune now
  else limiter

def check (limiter : Limiter R) (key : String) (now : Instant) : Limiter R × Verdict :=
  let limiter := limiter.roomFor key now
  let bucket := (limiter.buckets[key]?).getD (.new limiter.policy now)
  let (bucket, verdict) := bucket.take limiter.policy now
  ({ limiter with buckets := limiter.buckets.insert key bucket }, verdict)

end Limiter
end SecretBroker.RateLimit
