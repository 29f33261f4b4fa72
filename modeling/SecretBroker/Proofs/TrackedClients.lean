import SecretBroker.Proofs.TrafficBounds

/-!
Which clients a limiter keeps track of, in exact arithmetic. A bucket fills up within a period of
its client's last check, however often it was looked at meanwhile to make room for others. So what
is left when room is made belongs to clients of the last period, and what goes holds all that its
client may ever take.
-/

namespace SecretBroker.RateLimit

/-- When a key was checked last. -/
def lastCheck? (checks : List Check) (key : String) : Option Instant :=
  (checks.reverse.find? (·.key = key)).map (·.moment)

theorem lastCheck_same (checks : List Check) (check : Check) :
    lastCheck? (checks ++ [check]) check.key = some check.moment := by
  simp [lastCheck?]

theorem lastCheck_other (checks : List Check) (check : Check) {key : String}
    (differs : key ≠ check.key) :
    lastCheck? (checks ++ [check]) key = lastCheck? checks key := by
  simp [lastCheck?, differs.symm]

theorem lastCheck_mem {checks : List Check} {key : String} {moment : Instant}
    (checked : lastCheck? checks key = some moment) :
    ⟨key, moment⟩ ∈ checks := by
  obtain ⟨last, found, rfl⟩ := Option.map_eq_some_iff.mp checked
  have named : last.key = key := by simpa using List.find?_some found
  have member := List.mem_of_find?_eq_some found
  rw [← named]
  exact List.mem_reverse.mp member

namespace Policy

variable {policy : Policy}

theorem inflow_mono {short long : Nat} (order : short ≤ long) :
    policy.inflow short ≤ policy.inflow long := by
  obtain ⟨more, rfl⟩ := Nat.exists_eq_add_of_le order
  rw [inflow_add]
  exact le_add_of_nonneg_right (policy.inflow_nonneg more)

theorem full_le_inflow (period : 0 < policy.period.total) {nanos : Nat}
    (whole : policy.period.total ≤ nanos) : policy.full ≤ policy.inflow nanos := by
  have filled : policy.inflow policy.period.total = policy.full := by
    rw [inflow_eq period]
    exact mul_div_cancel_left₀ _ (period_pos period).ne'
  rw [← filled]
  exact inflow_mono whole

end Policy

namespace Limiter

variable {limiter : Limiter Rat} {key other : String} {now later : Instant} {checks : List Check}

theorem after_snoc (limiter : Limiter Rat) (checks : List Check) (check : Check) :
    limiter.after (checks ++ [check]) =
      ((limiter.after checks).check check.key check.moment).1 := by
  simp [after]

/-! What a check does to the buckets that are held. -/

theorem contains_check (settled : limiter.Settled now) :
    (limiter.check key now).1.buckets.contains other = true ↔
      other = key ∨ (limiter.roomFor key now).buckets.contains other = true := by
  rw [check_eq settled, Std.HashMap.contains_insert, Bool.or_eq_true, beq_iff_eq, eq_comm]

/-- Making room keeps just the buckets that are not full. -/
theorem contains_prune :
    (limiter.prune now).buckets.contains key = true ↔
      limiter.buckets.contains key = true ∧ limiter.level key now < limiter.policy.full := by
  rw [Std.HashMap.contains_eq_isSome_getElem?, Std.HashMap.contains_eq_isSome_getElem?,
    prune_bucket, level]
  cases held : limiter.buckets[key]? with
  | none => simp
  | some bucket =>
      rw [Option.map_some, Option.isSome_filter, Option.any_some, Option.isSome_some,
        Option.elim_some, Bool.not_eq_true', Bool.eq_false_iff, Ne, Bucket.isFull_refill]
      simp only [true_and]
      exact Bucket.level_le_full.lt_iff_ne.symm

theorem contains_roomFor (held : (limiter.roomFor key now).buckets.contains other = true) :
    limiter.buckets.contains other = true := by
  unfold roomFor at held
  split at held
  · exact (contains_prune.mp held).1
  · exact held

theorem roomFor_crowded (many : trackedBound ≤ limiter.tracked)
    (untracked : limiter.buckets.contains key = false) :
    limiter.roomFor key now = limiter.prune now := by
  simp [roomFor, many, untracked]

theorem roomFor_spacious (key : String) (now : Instant) (few : limiter.tracked < trackedBound) :
    limiter.roomFor key now = limiter := by
  simp [roomFor, Nat.not_le_of_lt few]

/-- A bucket goes only when it is full. -/
theorem level_removed (settled : limiter.Settled now)
    (held : limiter.buckets.contains other = true)
    (gone : (limiter.check key now).1.buckets.contains other = false) :
    limiter.level other now = limiter.policy.full := by
  have unkept := mt (contains_check settled).mpr (Bool.eq_false_iff.mp gone)
  rw [not_or] at unkept
  unfold roomFor at unkept
  split at unkept
  · have notScarce := fun scarce => unkept.2 (contains_prune.mpr ⟨held, scarce⟩)
    exact le_antisymm (limiter.level_le_full other now) (not_lt.mp notScarce)
  · exact absurd held unkept.2

/-- A key that may take a number of tokens is granted as many requests at once. -/
theorem granted_at_once (sound : limiter.Sound now) (number : Nat)
    (stocked : number ≤ limiter.level key now) :
    ∀ answer ∈ limiter.answers (List.replicate number ⟨key, now⟩), answer.2 = .granted := by
  induction number generalizing limiter with
  | zero => exact nofun
  | succ number ih =>
      rw [Nat.cast_succ] at stocked
      have positive : (0 : Rat) ≤ number := Nat.cast_nonneg number
      have granted : (limiter.check key now).2 = .granted := by
        rw [check_verdict sound.settled, limiter.policy.verdict_granted]
        linarith
      have spent := level_spent sound.settled key key
      rw [if_pos ⟨rfl, granted⟩] at spent
      rw [List.replicate_succ, answers]
      refine List.forall_mem_cons.mpr ⟨granted, ?_⟩
      exact ih (sound.check key) (by linarith)

/-! Every bucket has filled since its client's last check. -/

/-- Every bucket is that of a client who was checked, and a client who was checked may take at least
what has flowed into a bucket since, from that moment on. -/
structure Traced (limiter : Limiter Rat) (checks : List Check) (now : Instant) : Prop where
  sound : limiter.Sound now
  known : ∀ key, limiter.buckets.contains key = true → ∃ moment, lastCheck? checks key = some moment
  filled : ∀ key moment, lastCheck? checks key = some moment → ∀ later, now ≤ later →
    Min.min (limiter.policy.inflow (later - moment)) limiter.policy.full ≤ limiter.level key later

theorem new_traced (policy : Policy) (now : Instant) : (Limiter.new policy).Traced [] now where
  sound := new_sound policy now
  known key held := by
    rw [Limiter.new, Std.HashMap.contains_empty] at held
    cases held
  filled key moment checked := by cases checked

theorem Traced.mono (traced : limiter.Traced checks now) (order : now ≤ later) :
    limiter.Traced checks later :=
  ⟨traced.sound.mono order, traced.known, fun key moment checked last after =>
    traced.filled key moment checked last (order.trans after)⟩

theorem Traced.check (traced : limiter.Traced checks now) (key : String) :
    (limiter.check key now).1.Traced (checks ++ [⟨key, now⟩]) now where
  sound := traced.sound.check key
  known other held := by
    by_cases same : other = key
    · subst same
      exact ⟨now, lastCheck_same checks ⟨other, now⟩⟩
    · rw [lastCheck_other checks ⟨key, now⟩ same]
      have kept := ((contains_check traced.sound.settled).mp held).resolve_left same
      exact traced.known other (contains_roomFor kept)
  filled other moment checked later order := by
    rw [check_policy]
    by_cases same : other = key
    · subst same
      rw [lastCheck_same checks ⟨other, now⟩] at checked
      obtain rfl : now = moment := Option.some.inj checked
      -- The check leaves at least nothing.
      have left := Policy.rest_nonneg (traced.sound.level_nonneg other now)
      rw [level_check_same traced.sound.settled]
      exact min_le_min_right _ (le_add_of_nonneg_left left)
    · rw [lastCheck_other checks ⟨key, now⟩ same] at checked
      rw [level_check_other traced.sound.settled order same]
      exact traced.filled other moment checked later order

theorem traced_after (policy : Policy) (checks : List Check)
    (ordered : checks.Pairwise (·.moment ≤ ·.moment)) (now : Instant)
    (past : ∀ check ∈ checks, check.moment ≤ now) :
    ((Limiter.new policy : Limiter Rat).after checks).Traced checks now := by
  induction checks using List.reverseRecOn generalizing now with
  | nil => exact new_traced policy now
  | append_singleton checks check ih =>
      obtain ⟨before, _, following⟩ := List.pairwise_append.mp ordered
      have reached := ih before check.moment fun other member =>
        following other member check List.mem_cons_self
      rw [after_snoc]
      exact (reached.check check.key).mono (past check (by simp))

/-- A client whose bucket is not full was checked within the last period. -/
theorem Traced.recent (traced : limiter.Traced checks now)
    (period : 0 < limiter.policy.period.total) {moment : Instant}
    (checked : lastCheck? checks key = some moment)
    (scarce : limiter.level key now < limiter.policy.full) :
    now < moment + limiter.policy.period.total := by
  by_contra late
  have elapsed : limiter.policy.period.total ≤ now - moment :=
    Nat.le_sub_of_add_le' (Nat.le_of_not_lt late)
  have filled := traced.filled key moment checked now le_rfl
  rw [min_eq_right (Policy.full_le_inflow period elapsed)] at filled
  exact absurd scarce (not_lt.mpr filled)

end Limiter

/-- After the check of a client who was not tracked, at most ten thousand buckets are held, or only
those of clients whose last check is less than a period ago. A check takes away the bucket of no
client but one who could make as many requests at once as the limit allows, before the check and
after it. -/
theorem tracked_clients_are_active (policy : Policy) (period : 0 < policy.period.total)
    (checks : List Check) (check : Check)
    (ordered : (checks ++ [check]).Pairwise (·.moment ≤ ·.moment)) :
    let before := (Limiter.new policy : Limiter Rat).after checks
    let after := (before.check check.key check.moment).1
    (before.buckets.contains check.key = false → after.tracked ≤ 10000 ∨
      ∀ client, after.buckets.contains client = true → ∃ moment,
        lastCheck? (checks ++ [check]) client = some moment ∧
          check.moment < moment + policy.period.total) ∧
    ∀ client, before.buckets.contains client = true → after.buckets.contains client = false →
      ∀ limiter ∈ [before, after], ∀ answer ∈ limiter.answers
        (List.replicate policy.capacity ⟨client, check.moment⟩), answer.2 = .granted := by
  intro before after
  obtain ⟨earlier, _, following⟩ := List.pairwise_append.mp ordered
  have past : ∀ other ∈ checks, other.moment ≤ check.moment := fun other member =>
    following other member check List.mem_cons_self
  have traced : before.Traced checks check.moment :=
    Limiter.traced_after policy checks earlier check.moment past
  have settled := traced.sound.settled
  have samePolicy : before.policy = policy := Limiter.after_policy _ checks
  constructor
  · intro untracked
    rcases Nat.lt_or_ge before.tracked trackedBound with few | many
    · left
      have grown : after.tracked ≤ before.tracked + 1 := by
        simp only [after, Limiter.tracked, Limiter.check_eq settled,
          Limiter.roomFor_spacious _ _ few]
        exact Std.HashMap.size_insert_le
      exact grown.trans few
    · right
      intro client held
      rcases (Limiter.contains_check settled).mp held with rfl | kept
      · exact ⟨check.moment, lastCheck_same checks check, Nat.lt_add_of_pos_right period⟩
      · rw [Limiter.roomFor_crowded many untracked] at kept
        obtain ⟨known, scarce⟩ := Limiter.contains_prune.mp kept
        obtain ⟨moment, checked⟩ := traced.known client known
        have differs : client ≠ check.key := by
          rintro rfl
          exact absurd known (Bool.eq_false_iff.mp untracked)
        have recent := traced.recent (samePolicy.symm ▸ period) checked scarce
        rw [samePolicy] at recent
        exact ⟨moment, (lastCheck_other checks check differs).trans checked, recent⟩
  · intro client held gone
    have full : before.level client check.moment = policy.capacity := by
      rw [Limiter.level_removed settled held gone, samePolicy]
      rfl
    have differs : client ≠ check.key := by
      rintro rfl
      exact absurd ((Limiter.contains_check settled).mpr (Or.inl rfl)) (Bool.eq_false_iff.mp gone)
    have unchanged := Limiter.level_check_other settled le_rfl differs
    intro limiter either
    rcases List.mem_pair.mp either with rfl | rfl
    · exact Limiter.granted_at_once traced.sound policy.capacity full.ge
    · exact Limiter.granted_at_once (traced.sound.check check.key) policy.capacity
        (unchanged.trans full).ge

/-- Clients who each ask once, at one moment. -/
def crowd (keys : List String) (moment : Instant) : List Check := keys.map (⟨·, moment⟩)

theorem crowd_ordered (keys : List String) (moment : Instant) :
    (crowd keys moment).Pairwise (·.moment ≤ ·.moment) :=
  List.pairwise_map.mpr (List.pairwise_of_forall fun _ _ => Nat.le_refl moment)

/-- As long as there is room for all, every client of a crowd is tracked and no other. -/
theorem crowd_tracked (policy : Policy) (moment : Instant) (keys : List String)
    (distinct : keys.Nodup) (few : keys.length ≤ trackedBound) :
    let limiter := (Limiter.new policy : Limiter Rat).after (crowd keys moment)
    limiter.tracked = keys.length ∧
      ∀ key, limiter.buckets.contains key = true ↔ key ∈ keys := by
  induction keys using List.reverseRecOn with
  | nil => exact ⟨Std.HashMap.size_empty, fun key => by simp [crowd, Limiter.after, Limiter.new]⟩
  | append_singleton keys last ih =>
      obtain ⟨others, _, apart⟩ := List.nodup_append.mp distinct
      have absent : last ∉ keys := fun member => apart last member last List.mem_cons_self rfl
      rw [List.length_append, List.length_singleton] at few ⊢
      obtain ⟨size, held⟩ := ih others (Nat.le_of_succ_le few)
      have settled := (Limiter.traced_after policy (crowd keys moment) (crowd_ordered keys moment)
        moment (by simp [crowd])).sound.settled
      have room := Limiter.roomFor_spacious last moment (size.trans_lt few)
      have snoc : crowd (keys ++ [last]) moment = crowd keys moment ++ [⟨last, moment⟩] := by
        simp [crowd]
      rw [snoc, Limiter.after_snoc]
      constructor
      · have fresh := mt (held last).mp absent
        rw [Std.HashMap.contains_iff_mem] at fresh
        rw [← size]
        simp only [Limiter.tracked, Limiter.check_eq settled, room, Std.HashMap.size_insert]
        rw [if_neg fresh]
      · intro key
        rw [Limiter.contains_check settled, room, held, List.mem_append, List.mem_singleton,
          or_comm]

/-- A crowd that takes all the room is forgotten when another client comes a period later. -/
theorem crowd_forgotten (policy : Policy) (period : 0 < policy.period.total) (moment : Instant)
    {keys : List String} (distinct : keys.Nodup) (many : keys.length = trackedBound)
    {newcomer : String} (absent : newcomer ∉ keys) {now : Instant}
    (late : moment + policy.period.total ≤ now) {key : String} (member : key ∈ keys) :
    (((Limiter.new policy : Limiter Rat).after (crowd keys moment)).check
      newcomer now).1.buckets.contains key = false := by
  obtain ⟨size, held⟩ := crowd_tracked policy moment keys distinct many.le
  have traced := Limiter.traced_after policy (crowd keys moment) (crowd_ordered keys moment) now
    fun check member => by
      obtain ⟨_, _, rfl⟩ := List.mem_map.mp member
      exact (Nat.le_add_right _ _).trans late
  have stranger := Bool.eq_false_iff.mpr (mt (held newcomer).mp absent)
  rw [Bool.eq_false_iff, Ne, Limiter.contains_check traced.sound.settled,
    Limiter.roomFor_crowded (size.trans many).ge stranger, Limiter.contains_prune, not_or]
  refine ⟨fun same => absent (same ▸ member), fun kept => ?_⟩
  obtain ⟨last, checked⟩ := traced.known key kept.1
  obtain ⟨_, _, only⟩ := List.mem_map.mp (lastCheck_mem checked)
  have first : moment = last := congrArg Check.moment only
  have recent := traced.recent ((Limiter.after_policy _ _).symm ▸ period) checked kept.2
  rw [← first, Limiter.after_policy] at recent
  exact absurd recent (Nat.not_lt_of_le late)

theorem repr_injective : Function.Injective Nat.repr := by
  intro one other same
  have read := congrArg (fun text => Nat.ofDigitChars 10 text.toList 0) same
  simpa using read

/-- Ten thousand clients have asked once; a minute later another one comes, and they all go. -/
theorem idle_crowd_forgotten :
    let checks := crowd ((List.range 10000).map Nat.repr) 0
    let newcomer : Check := ⟨Nat.repr 10000, 60 * nanosPerSecond⟩
    let before := (Limiter.new (.perMinute 2) : Limiter Rat).after checks
    let after := (before.check newcomer.key newcomer.moment).1
    before.tracked = 10000 ∧ before.buckets.contains newcomer.key = false ∧
      before.buckets.contains (Nat.repr 7) = true ∧ after.buckets.contains (Nat.repr 7) = false ∧
      (after.tracked ≤ 10000 ∨ ∀ client, after.buckets.contains client = true → ∃ moment,
        lastCheck? (checks ++ [newcomer]) client = some moment ∧
          newcomer.moment < moment + (Policy.perMinute 2).period.total) ∧
      ∀ answer ∈ after.answers (List.replicate 2 ⟨Nat.repr 7, newcomer.moment⟩),
        answer.2 = .granted := by
  have distinct : ((List.range 10000).map Nat.repr).Nodup := List.nodup_range.map repr_injective
  have many : ((List.range 10000).map Nat.repr).length = trackedBound := by
    rw [List.length_map, List.length_range, trackedBound]
  have member : Nat.repr 7 ∈ (List.range 10000).map Nat.repr := by
    rw [List.mem_map_of_injective repr_injective, List.mem_range]
    decide
  have late : 0 + (Policy.perMinute 2).period.total ≤
      (Check.mk (Nat.repr 10000) (60 * nanosPerSecond)).moment := by decide
  have absent : (Check.mk (Nat.repr 10000) (60 * nanosPerSecond)).key ∉
      (List.range 10000).map Nat.repr := by
    rw [List.mem_map_of_injective repr_injective, List.mem_range]
    decide
  -- From here on it does not matter who they are, and nothing is tempted to go through them.
  generalize (List.range 10000).map Nat.repr = keys at distinct many member absent ⊢
  generalize Check.mk (Nat.repr 10000) (60 * nanosPerSecond) = newcomer at late absent ⊢
  obtain ⟨size, held⟩ := crowd_tracked (.perMinute 2) 0 keys distinct many.le
  have ordered : (crowd keys 0 ++ [newcomer]).Pairwise (·.moment ≤ ·.moment) := by
    refine List.pairwise_append.mpr ⟨crowd_ordered _ _, List.pairwise_singleton _ _, ?_⟩
    simp [crowd]
  have active := tracked_clients_are_active (.perMinute 2) (by decide) _ newcomer ordered
  have stranger := Bool.eq_false_iff.mpr (mt (held newcomer.key).mp absent)
  have known := (held (Nat.repr 7)).mpr member
  have gone := crowd_forgotten (.perMinute 2) (by decide) 0 distinct many absent late member
  have twice := active.2 (Nat.repr 7) known gone _ (List.mem_cons_of_mem _ List.mem_cons_self)
  exact ⟨size.trans many, stranger, known, gone, active.1 stranger, twice⟩

end SecretBroker.RateLimit
