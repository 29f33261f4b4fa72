import SecretBroker.Span

/-!
The arithmetic of token buckets. The limiter runs on binary floating point numbers; the same
definitions on rational numbers say what it is meant to compute.
-/

namespace SecretBroker.RateLimit

class Quantity (R : Type) where
  ofNat : Nat → R
  add : R → R → R
  sub : R → R → R
  mul : R → R → R
  div : R → R → R
  /-- The smaller of two; where one is no number, the other. -/
  min : R → R → R
  /-- Whether the first is not larger than the second. -/
  le : R → R → Bool
  /-- The next whole number, as a 32 bit count; what is no number counts as zero. -/
  ceil : R → Nat

namespace Quantity

variable {R : Type} [Quantity R]

/-- A span in seconds. -/
def ofSpan (span : Span) : R :=
  add (ofNat span.seconds) (div (ofNat span.nanos) (ofNat nanosPerSecond))

instance : Quantity Float where
  ofNat := Float.ofNat
  add := (· + ·)
  sub := (· - ·)
  mul := (· * ·)
  div := (· / ·)
  min a b := if a.isNaN then b else if b.isNaN then a else if a < b then a else b
  le a b := a ≤ b
  ceil a := a.ceil.toUInt32.toNat

def maxCount : Nat := 0xffffffff

instance : Quantity Rat where
  ofNat n := n
  add := (· + ·)
  sub := (· - ·)
  mul := (· * ·)
  div := (· / ·)
  min a b := if a < b then a else b
  le a b := a ≤ b
  ceil a := Nat.min a.ceil.toNat maxCount

end Quantity
end SecretBroker.RateLimit
