/-!
Spans of time and instants. A span counts seconds and, beside them, nanoseconds; what is said of its
length is said of the two together. An instant counts nanoseconds since the clock's start, within
signed 64 bit seconds.
-/

namespace SecretBroker

def nanosPerSecond : Nat := 1000000000

def secondsBound : Nat := 0xffffffffffffffff

structure Span where
  seconds : Nat
  nanos : Nat
  deriving DecidableEq, Repr, Inhabited

namespace Span

def zero : Span := ⟨0, 0⟩

def ofSeconds (seconds : Nat) : Span := ⟨seconds, 0⟩

def ofNanos (nanos : Nat) : Span := ⟨nanos / nanosPerSecond, nanos % nanosPerSecond⟩

def ofMillis (millis : Nat) : Span := ofNanos (millis * 1000000)

/-- The whole length in nanoseconds. -/
def total (span : Span) : Nat := nanosPerSecond * span.seconds + span.nanos

def isZero (span : Span) : Bool := span.seconds == 0 && span.nanos == 0

def longer (left right : Span) : Span := if left.total < right.total then right else left

/-- The span less a shorter one, and zero from there on. -/
def dropUpTo (span less : Span) : Span := ofNanos (span.total - less.total)

theorem total_ofNanos (nanos : Nat) : (ofNanos nanos).total = nanos :=
  Nat.div_add_mod nanos nanosPerSecond

end Span

/-- Nanoseconds since the clock started. -/
abbrev Instant := Nat

namespace Instant

/-- The first second count that no instant reaches. The clock's start itself lies past zero,
so the last second of the signed range is out of reach as well. -/
def horizon : Nat := 0x7fffffffffffffff

/-- The instant a span later; `none` beyond the horizon. -/
def after (now : Instant) (span : Span) : Option Instant :=
  if now + span.total < horizon * nanosPerSecond then some (now + span.total) else none

def ofMillis (millis : Nat) : Instant := 1000000 * millis

/-- Whole milliseconds since the clock started. -/
def millis (now : Instant) : Nat := now / 1000000

/-- The first whole millisecond that is not before an instant. -/
def wake (due : Instant) : Instant := ofMillis ((due + 999999) / 1000000)

theorem after_eq_some {now later : Instant} {span : Span} (reached : after now span = some later) :
    later = now + span.total := by
  simp only [after] at reached
  split at reached
  · exact (Option.some.inj reached).symm
  · cases reached

end Instant
end SecretBroker
