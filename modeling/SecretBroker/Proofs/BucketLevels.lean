import Mathlib.Algebra.Order.Field.Rat
import Mathlib.Tactic.Linarith
import Mathlib.Tactic.Positivity
import Mathlib.Tactic.Ring
import SecretBroker.RateLimit

/-!
What buckets hold, in exact arithmetic. The level of a bucket depends on how long it has filled and
not on how often it was looked at meanwhile, and a key without a bucket stands like one whose bucket
is full. So the levels of its keys are all there is to know of a limiter.
-/

namespace SecretBroker.RateLimit

open Quantity

theorem quantity_min (a b : Rat) : Quantity.min a b = Min.min a b := by
  change (if a < b then a else b) = Min.min a b
  by_cases less : a < b
  · rw [if_pos less, min_eq_left less.le]
  · rw [if_neg less, min_eq_right (not_lt.mp less)]

theorem ofSpan_total (span : Span) : (ofSpan span : Rat) = span.total / nanosPerSecond := by
  change (span.seconds : Rat) + span.nanos / nanosPerSecond = _
  have positive : (nanosPerSecond : Rat) ≠ 0 := by norm_num [nanosPerSecond]
  rw [Span.total, Nat.cast_add, Nat.cast_mul, add_div, mul_div_cancel_left₀ _ positive]

namespace Policy

variable (policy : Policy)

theorem rate_nonneg : 0 ≤ (policy.rate : Rat) := by
  change 0 ≤ (policy.capacity : Rat) / (ofSpan policy.period : Rat)
  rw [ofSpan_total]
  positivity

/-- What flows into a bucket within a number of nanoseconds. -/
def inflow (nanos : Nat) : Rat := nanos / nanosPerSecond * policy.rate

theorem inflow_nonneg (nanos : Nat) : 0 ≤ policy.inflow nanos :=
  mul_nonneg (by positivity) policy.rate_nonneg

theorem inflow_add (one other : Nat) :
    policy.inflow (one + other) = policy.inflow one + policy.inflow other := by
  unfold inflow
  push_cast
  ring

/-- What a check says of a level, and what it leaves of it. -/
def verdict (level : Rat) : Verdict :=
  if 1 ≤ level then .granted else .refused (Bucket.retryAfter policy (⟨level, 0⟩ : Bucket Rat))

def rest (level : Rat) : Rat := if 1 ≤ level then level - 1 else level

theorem verdict_granted {level : Rat} : policy.verdict level = .granted ↔ 1 ≤ level := by
  unfold verdict
  split
  · rename_i enough
    exact ⟨fun _ => enough, fun _ => rfl⟩
  · rename_i scarce
    exact ⟨fun granted => (by cases granted), fun enough => absurd enough scarce⟩

end Policy

namespace Bucket

variable {policy : Policy} {bucket : Bucket Rat} {now later : Instant}

/-- What a bucket holds at an instant. -/
def level (policy : Policy) (bucket : Bucket Rat) (now : Instant) : Rat :=
  Min.min (bucket.tokens + policy.inflow (now - bucket.refilled)) policy.full

theorem refill_eq : bucket.refill policy now = ⟨bucket.level policy now, now⟩ := by
  have elapsed : (ofSpan (Span.ofNanos (now - bucket.refilled)) : Rat) =
      ((now - bucket.refilled : Nat) : Rat) / nanosPerSecond := by
    rw [ofSpan_total, Span.total_ofNanos]
  unfold refill level Policy.inflow
  rw [← elapsed, ← quantity_min]
  rfl

theorem take_eq : bucket.take policy now =
    (⟨Policy.rest (bucket.level policy now), now⟩, policy.verdict (bucket.level policy now)) := by
  unfold take
  rw [refill_eq]
  by_cases enough : 1 ≤ bucket.level policy now
  · have held : Quantity.le (ofNat 1) (bucket.level policy now) = true := decide_eq_true enough
    simp only [held, Policy.rest, Policy.verdict, if_pos enough, ↓reduceIte]
    rfl
  · have held : Quantity.le (ofNat 1) (bucket.level policy now) = false := decide_eq_false enough
    simp only [held, Policy.rest, Policy.verdict, if_neg enough, Bool.false_eq_true, ↓reduceIte]
    rfl

/-- Filling up in two goes is filling up in one. -/
theorem level_level (past : bucket.refilled ≤ now) (order : now ≤ later) :
    level policy ⟨bucket.level policy now, now⟩ later = bucket.level policy later := by
  have spans : later - bucket.refilled = (now - bucket.refilled) + (later - now) := by
    rw [Nat.add_comm, Nat.sub_add_sub_cancel order past]
  have flows := policy.inflow_nonneg (later - now)
  unfold level
  rw [spans, policy.inflow_add, ← add_assoc]
  -- What flows over at the first look would flow over at the second one as well.
  rcases le_total (bucket.tokens + policy.inflow (now - bucket.refilled)) policy.full with
    below | above
  · rw [min_eq_left below]
  · rw [min_eq_right above, min_eq_right (by linarith), min_eq_right (by linarith)]

theorem level_new : (Bucket.new policy now : Bucket Rat).level policy later = policy.full :=
  min_eq_right (le_add_of_nonneg_right (policy.inflow_nonneg _))

theorem level_le_full : bucket.level policy now ≤ policy.full := min_le_right _ _

theorem isFull_refill : (bucket.refill policy now).isFull policy = true ↔
    bucket.level policy now = policy.full := by
  rw [refill_eq]
  change decide ((policy.full : Rat) ≤ bucket.level policy now) = true ↔ _
  rw [decide_eq_true_eq]
  exact ⟨fun full => le_antisymm level_le_full full, fun full => full.ge⟩

/-- A full bucket stays full. -/
theorem level_full (past : bucket.refilled ≤ now) (order : now ≤ later)
    (full : bucket.level policy now = policy.full) : bucket.level policy later = policy.full := by
  rw [← level_level past order, full]
  exact level_new

end Bucket

namespace Limiter

variable {limiter : Limiter Rat} {key : String} {now later : Instant}

/-- What a key may take at an instant. -/
def level (limiter : Limiter Rat) (key : String) (now : Instant) : Rat :=
  (limiter.buckets[key]?).elim limiter.policy.full (·.level limiter.policy now)

/-- No bucket was looked at after an instant. -/
def Settled (limiter : Limiter Rat) (now : Instant) : Prop :=
  ∀ (key : String) (bucket : Bucket Rat),
    limiter.buckets[key]? = some bucket → bucket.refilled ≤ now

theorem new_settled (policy : Policy) (now : Instant) : (Limiter.new policy).Settled now := by
  intro key bucket held
  rw [Limiter.new, Std.HashMap.getElem?_empty] at held
  cases held

theorem level_new (policy : Policy) (key : String) (now : Instant) :
    (Limiter.new policy).level key now = policy.full := by
  rw [level, Limiter.new, Std.HashMap.getElem?_empty]
  rfl

theorem Settled.mono (settled : limiter.Settled now) (order : now ≤ later) :
    limiter.Settled later :=
  fun key bucket held => (settled key bucket held).trans order

theorem prune_bucket : (limiter.prune now).buckets[key]? =
    ((limiter.buckets[key]?).map (·.refill limiter.policy now)).filter
      fun bucket => !bucket.isFull limiter.policy := by
  simp only [prune, Std.HashMap.getElem?_filter', Std.HashMap.getElem?_map]

theorem prune_settled : (limiter.prune now).Settled now := by
  intro key bucket held
  rw [prune_bucket] at held
  obtain ⟨refilled, _⟩ := Option.filter_eq_some_iff.mp held
  obtain ⟨before, _, rfl⟩ := Option.map_eq_some_iff.mp refilled
  rw [Bucket.refill_eq]

theorem level_prune (settled : limiter.Settled now) (order : now ≤ later) :
    (limiter.prune now).level key later = limiter.level key later := by
  have samePolicy : (limiter.prune now).policy = limiter.policy := rfl
  unfold level
  rw [prune_bucket, samePolicy]
  cases held : limiter.buckets[key]? with
  | none => rfl
  | some bucket =>
      have past := settled key bucket held
      rw [Option.map_some, Option.filter_some]
      -- A bucket that is forgotten was full, and one that is kept has only been looked at.
      by_cases full : bucket.level limiter.policy now = limiter.policy.full
      · rw [Bucket.isFull_refill.mpr full]
        exact (Bucket.level_full past order full).symm
      · have kept : (bucket.refill limiter.policy now).isFull limiter.policy = false :=
          Bool.eq_false_iff.mpr fun isFull => full (Bucket.isFull_refill.mp isFull)
        rw [kept, Bucket.refill_eq]
        exact Bucket.level_level past order

theorem roomFor_policy : (limiter.roomFor key now).policy = limiter.policy := by
  unfold roomFor
  split <;> rfl

theorem roomFor_settled (settled : limiter.Settled now) :
    (limiter.roomFor key now).Settled now := by
  unfold roomFor
  split
  · exact prune_settled
  · exact settled

theorem level_roomFor (settled : limiter.Settled now) (order : now ≤ later) (other : String) :
    (limiter.roomFor key now).level other later = limiter.level other later := by
  unfold roomFor
  split
  · exact level_prune settled order
  · rfl

/-- A key without a bucket gets one that holds what the key may take. -/
theorem level_bucket (limiter : Limiter Rat) (key : String) (now : Instant) :
    ((limiter.buckets[key]?).getD (.new limiter.policy now)).level limiter.policy now =
      limiter.level key now := by
  unfold level
  cases limiter.buckets[key]? with
  | none => exact Bucket.level_new
  | some bucket => rfl

theorem check_eq (settled : limiter.Settled now) : limiter.check key now =
    ({ limiter.roomFor key now with
        buckets := (limiter.roomFor key now).buckets.insert key
          ⟨Policy.rest (limiter.level key now), now⟩ },
      limiter.policy.verdict (limiter.level key now)) := by
  have level := level_bucket (limiter.roomFor key now) key now
  rw [level_roomFor settled le_rfl, roomFor_policy] at level
  simp only [check, roomFor_policy, Bucket.take_eq, level]

theorem check_policy : (limiter.check key now).1.policy = limiter.policy := roomFor_policy

theorem check_verdict (settled : limiter.Settled now) :
    (limiter.check key now).2 = limiter.policy.verdict (limiter.level key now) := by
  rw [check_eq settled]

theorem check_settled (settled : limiter.Settled now) : (limiter.check key now).1.Settled now := by
  intro other bucket held
  rw [check_eq settled, Std.HashMap.getElem?_insert] at held
  split at held
  · cases held
    exact le_rfl
  · exact roomFor_settled settled other bucket held

theorem level_check_same (settled : limiter.Settled now) (later : Instant) :
    (limiter.check key now).1.level key later =
      Bucket.level limiter.policy ⟨Policy.rest (limiter.level key now), now⟩ later := by
  rw [check_eq settled, level, Std.HashMap.getElem?_insert_self, roomFor_policy]
  rfl

theorem level_check_other (settled : limiter.Settled now) (order : now ≤ later) {other : String}
    (differs : other ≠ key) :
    (limiter.check key now).1.level other later = limiter.level other later := by
  have passed : (key == other) = false := by simpa using differs.symm
  have room : (limiter.roomFor key now).level other later = limiter.level other later :=
    level_roomFor settled order other
  rw [check_eq settled, level, Std.HashMap.getElem?_insert, passed]
  exact room

theorem level_level (settled : limiter.Settled now) (order : now ≤ later) :
    Bucket.level limiter.policy ⟨limiter.level key now, now⟩ later = limiter.level key later := by
  unfold level
  cases held : limiter.buckets[key]? with
  | none => exact Bucket.level_new
  | some bucket => exact Bucket.level_level (settled key bucket held) order

/-- A refusal leaves every level as it was. -/
theorem level_check_refused (settled : limiter.Settled now) (order : now ≤ later)
    (refused : (limiter.check key now).2 ≠ .granted) (other : String) :
    (limiter.check key now).1.level other later = limiter.level other later := by
  by_cases same : other = key
  · subst other
    have scarce : ¬ 1 ≤ limiter.level key now := by
      rw [check_verdict settled] at refused
      exact fun enough => refused (limiter.policy.verdict_granted.mpr enough)
    rw [level_check_same settled, Policy.rest, if_neg scarce]
    exact level_level settled order
  · exact level_check_other settled order same

end Limiter
end SecretBroker.RateLimit
