import SecretBroker.Proofs.TrafficBounds

/-!
What a refusal announces, in exact arithmetic. As long as a key is granted nothing, what it may take
follows from what it could take when it was refused, whoever else asks and however often it asks
itself. So the announced number of seconds is the first one after which it is granted a request.
-/

namespace SecretBroker.RateLimit

namespace Policy

variable {policy : Policy}

theorem inflow_seconds (policy : Policy) (seconds : Nat) :
    policy.inflow (seconds * nanosPerSecond) = seconds * policy.rate := by
  rw [inflow, Nat.cast_mul, mul_div_cancel_right₀ _ nanos_pos.ne']

theorem rate_pos (capacity : 1 ≤ policy.capacity) (period : 0 < policy.period.total) :
    0 < (policy.rate : Rat) := by
  change 0 < (policy.capacity : Rat) / Quantity.ofSpan policy.period
  rw [ofSpan_total]
  exact div_pos (capacity_pos capacity) (div_pos (period_pos period) nanos_pos)

/-- A token flows in within the largest number of seconds that can be announced. -/
theorem token_within_maxCount (capacity : 1 ≤ policy.capacity) (period : 0 < policy.period.total)
    (announceable : (policy.period.total : Rat) / nanosPerSecond / policy.capacity ≤ 2 ^ 32 - 1) :
    1 ≤ (Quantity.maxCount : Rat) * policy.rate := by
  have most : (Quantity.maxCount : Rat) = 2 ^ 32 - 1 := by norm_num [Quantity.maxCount]
  have seconds := div_pos (period_pos period) nanos_pos
  change 1 ≤ (Quantity.maxCount : Rat) * (policy.capacity / Quantity.ofSpan policy.period)
  rw [ofSpan_total, most, ← mul_div_assoc, one_le_div₀ seconds,
    ← div_le_iff₀ (capacity_pos capacity)]
  exact announceable

end Policy

/-- The announced seconds are enough, and no fewer are. -/
theorem Bucket.retryAfter_le_iff {policy : Policy} (capacity : 1 ≤ policy.capacity)
    (period : 0 < policy.period.total)
    (announceable : (policy.period.total : Rat) / nanosPerSecond / policy.capacity ≤ 2 ^ 32 - 1)
    {level : Rat} (stocked : 0 ≤ level) (scarce : level < 1) (now : Instant) (seconds : Nat) :
    Bucket.retryAfter policy ⟨level, now⟩ ≤ seconds ↔ 1 ≤ level + seconds * policy.rate := by
  have rate := Policy.rate_pos capacity period
  have bounded := Policy.token_within_maxCount capacity period announceable
  have waited : ∀ count : Nat, ((1 - level) / policy.rate : Rat).ceil.toNat ≤ count ↔
      1 ≤ level + count * policy.rate := by
    intro count
    rw [Int.toNat_le, Rat.ceil_le_iff, Rat.intCast_natCast, div_le_iff₀ rate, sub_le_iff_le_add']
  have uncut : ((1 - level) / policy.rate : Rat).ceil.toNat ≤ Quantity.maxCount := by
    rw [waited]
    linarith
  change max 1 (min (((1 : Nat) - level) / policy.rate : Rat).ceil.toNat
    Quantity.maxCount) ≤ seconds ↔ _
  rw [Nat.cast_one, min_eq_left uncut, max_le_iff, waited, and_iff_right_iff_imp]
  -- At once there is no token yet, so at least one second has to pass.
  intro enough
  rcases Nat.eq_zero_or_pos seconds with rfl | positive
  · rw [Nat.cast_zero, zero_mul, add_zero] at enough
    exact absurd enough (not_le.mpr scarce)
  · exact positive

/-- Checks between two instants none of which a key was granted. -/
structure Interlude (limiter : Limiter Rat) (key : String) (now later : Instant)
    (checks : List Check) : Prop where
  ordered : checks.Pairwise (·.moment ≤ ·.moment)
  between : ∀ check ∈ checks, now ≤ check.moment ∧ check.moment ≤ later
  ungranted : ∀ answer ∈ limiter.answers checks, answer.1.key = key → answer.2 ≠ .granted

namespace Limiter

variable {limiter : Limiter Rat} {key : String} {now later : Instant}

theorem level_after (sound : limiter.Sound now) (order : now ≤ later) {checks : List Check}
    (interlude : Interlude limiter key now later checks) :
    (limiter.after checks).level key later = limiter.level key later := by
  obtain ⟨ordered, between, ungranted⟩ := interlude
  induction checks generalizing limiter now with
  | nil => rfl
  | cons check rest ih =>
      obtain ⟨following, restOrdered⟩ := List.pairwise_cons.mp ordered
      obtain ⟨⟨reached, early⟩, restBetween⟩ := List.forall_mem_cons.mp between
      obtain ⟨spared, restUngranted⟩ := List.forall_mem_cons.mp ungranted
      have there := sound.mono reached
      have tail := ih (there.check check.key) early restOrdered
        (fun other member => ⟨following other member, (restBetween other member).2⟩) restUngranted
      have kept := level_check_kept there.settled early (not_and.mpr spared)
      exact tail.trans kept

theorem granted_after (sound : limiter.Sound now) (order : now ≤ later) {checks : List Check}
    (interlude : Interlude limiter key now later checks) :
    ((limiter.after checks).check key later).2 = .granted ↔ 1 ≤ limiter.level key later := by
  have there := sound.after order interlude.ordered interlude.between
  rw [check_verdict there.settled, level_after sound order interlude]
  exact Policy.verdict_granted _

theorem refused_level (sound : limiter.Sound now) {seconds : Nat}
    (refused : (limiter.check key now).2 = .refused seconds) :
    limiter.level key now < 1 ∧
      seconds = Bucket.retryAfter limiter.policy ⟨limiter.level key now, 0⟩ := by
  rw [check_verdict sound.settled, Policy.verdict] at refused
  split at refused
  · cases refused
  · rename_i scarce
    exact ⟨not_le.mp scarce, (Verdict.refused.inj refused).symm⟩

theorem enough_after (sound : limiter.Sound now) (capacity : 1 ≤ limiter.policy.capacity)
    (seconds : Nat) : 1 ≤ limiter.level key (now + seconds * nanosPerSecond) ↔
      1 ≤ limiter.level key now + seconds * limiter.policy.rate := by
  rw [← level_level sound.settled (Nat.le_add_right now _), ← Policy.inflow_seconds]
  change 1 ≤ Min.min (limiter.level key now + limiter.policy.inflow
    (now + seconds * nanosPerSecond - now)) limiter.policy.full ↔ _
  rw [Nat.add_sub_cancel_left, le_min_iff]
  exact and_iff_left (Policy.one_le_full capacity)

theorem granted_iff_waited (sound : limiter.Sound now) (capacity : 1 ≤ limiter.policy.capacity)
    (period : 0 < limiter.policy.period.total)
    (announceable : (limiter.policy.period.total : Rat) / nanosPerSecond /
      limiter.policy.capacity ≤ 2 ^ 32 - 1)
    {seconds : Nat} (refused : (limiter.check key now).2 = .refused seconds) {wait : Nat}
    {meantime : List Check}
    (interlude : Interlude (limiter.check key now).1 key now (now + wait * nanosPerSecond)
      meantime) :
    (((limiter.check key now).1.after meantime).check key (now + wait * nanosPerSecond)).2 =
      .granted ↔ seconds ≤ wait := by
  obtain ⟨scarce, rfl⟩ := refused_level sound refused
  have order : now ≤ now + wait * nanosPerSecond := Nat.le_add_right _ _
  have kept := level_check_refused sound.settled order (by rw [refused]; exact nofun) key
  rw [granted_after (sound.check key) order interlude, kept, enough_after sound capacity,
    Bucket.retryAfter_le_iff capacity period announceable (sound.level_nonneg key now) scarce]

end Limiter

/-- A refused check announces the least positive number of seconds after which a check of the same
key is granted, whatever is checked in the meantime, if the key is granted nothing before. After
fewer seconds it is refused again, and after more it is granted as well. -/
theorem retry_after_least (policy : Policy) (capacity : 1 ≤ policy.capacity)
    (period : 0 < policy.period.total)
    (announceable : (policy.period.total : Rat) / nanosPerSecond / policy.capacity ≤ 2 ^ 32 - 1)
    (before : List Check) (ordered : before.Pairwise (·.moment ≤ ·.moment)) (key : String)
    (now : Instant) (past : ∀ check ∈ before, check.moment ≤ now) (seconds : Nat)
    (refused : (((Limiter.new policy : Limiter Rat).after before).check key now).2 =
      .refused seconds) :
    let limiter := (((Limiter.new policy : Limiter Rat).after before).check key now).1
    let later := fun wait : Nat => now + wait * nanosPerSecond
    IsLeast {wait : Nat | 0 < wait ∧ ∀ meantime, Interlude limiter key now (later wait) meantime →
      ((limiter.after meantime).check key (later wait)).2 = .granted} seconds ∧
    ∀ wait meantime, Interlude limiter key now (later wait) meantime →
      (((limiter.after meantime).check key (later wait)).2 = .granted ↔ seconds ≤ wait) := by
  intro limiter later
  have sound := (Limiter.new_sound policy 0).after (Nat.zero_le now) ordered fun check member =>
    ⟨Nat.zero_le _, past check member⟩
  have samePolicy := Limiter.after_policy (Limiter.new policy : Limiter Rat) before
  have waited : ∀ wait meantime, Interlude limiter key now (later wait) meantime →
      (((limiter.after meantime).check key (later wait)).2 = .granted ↔ seconds ≤ wait) := by
    intro wait meantime interlude
    apply Limiter.granted_iff_waited sound _ _ _ refused interlude
    all_goals rw [samePolicy]
    · exact capacity
    · exact period
    · exact announceable
  refine ⟨⟨⟨?_, ?_⟩, ?_⟩, waited⟩
  · rw [(Limiter.refused_level sound refused).2]
    exact Nat.le_max_left 1 _
  · intro meantime interlude
    exact (waited seconds meantime interlude).mpr le_rfl
  · rintro wait ⟨_, served⟩
    have nothing : Interlude limiter key now (later wait) [] := ⟨.nil, nofun, nofun⟩
    exact (waited wait [] nothing).mp (served [] nothing)

/-- One request every two and a half seconds. -/
def unhurried : Policy := ⟨1, .ofMillis 2500⟩

/-- A second request comes after one second. -/
theorem unhurried_refuses :
    (((Limiter.new unhurried : Limiter Rat).after [⟨"10.0.0.1", 0⟩]).check "10.0.0.1"
      nanosPerSecond).2 = .refused 2 := by
  have fresh : (Limiter.new unhurried : Limiter Rat).Settled 0 := Limiter.new_settled _ 0
  have asked : ((Limiter.new unhurried : Limiter Rat).check "10.0.0.1" 0).1.Settled
      nanosPerSecond := (Limiter.check_settled fresh).mono (Nat.zero_le _)
  change (((Limiter.new unhurried : Limiter Rat).check "10.0.0.1" 0).1.check "10.0.0.1"
    nanosPerSecond).2 = _
  rw [Limiter.check_verdict asked, Limiter.check_policy, Limiter.level_check_same fresh,
    Limiter.level_new]
  decide +kernel

theorem unhurried_serves_in_time :
    let limiter := (((Limiter.new unhurried : Limiter Rat).after [⟨"10.0.0.1", 0⟩]).check
      "10.0.0.1" nanosPerSecond).1
    (limiter.check "10.0.0.1" (2 * nanosPerSecond)).2 ≠ .granted ∧
      ((limiter.after [⟨"10.0.0.1", 2 * nanosPerSecond⟩, ⟨"10.0.0.2", 2 * nanosPerSecond⟩]).check
        "10.0.0.1" (3 * nanosPerSecond)).2 = .granted := by
  intro limiter
  have announced := (retry_after_least unhurried (by decide) (by decide) (by decide +kernel)
    [⟨"10.0.0.1", 0⟩] (List.pairwise_singleton _ _) "10.0.0.1" nanosPerSecond (by decide) 2
    unhurried_refuses).2
  have early : (limiter.check "10.0.0.1" (2 * nanosPerSecond)).2 ≠ .granted := fun granted =>
    absurd ((announced 1 [] ⟨.nil, nofun, nofun⟩).mp granted) (by decide)
  refine ⟨early, (announced 2 _ ⟨by decide, by decide, ?_⟩).mpr le_rfl⟩
  -- Only the first of the two checks in between is of the key, and it comes too early.
  refine List.forall_mem_cons.mpr ⟨fun _ => early, List.forall_mem_singleton.mpr fun same => ?_⟩
  exact absurd same (by decide)

end SecretBroker.RateLimit
