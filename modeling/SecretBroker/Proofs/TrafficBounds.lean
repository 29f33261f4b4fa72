import Mathlib.Tactic.FieldSimp
import SecretBroker.Proofs.ClientBudgets

/-!
How much traffic a limit lets through, in exact arithmetic. What a key is granted comes out of what
it may take, and that grows by the inflow alone. So within a window of time a key is granted no more
than a full bucket and what flows into one meanwhile, and a key that waits for a token's worth of
inflow between its checks always finds a token.
-/

namespace SecretBroker.RateLimit

/-- The limiter after a run of checks. -/
def Limiter.after {R : Type} [Quantity R] (limiter : Limiter R) (checks : List Check) : Limiter R :=
  checks.foldl (fun limiter check => (limiter.check check.key check.moment).1) limiter

/-- How many requests a key was granted between two instants, both of them counted. -/
def grants (key : String) (first last : Instant) (answers : List (Check × Verdict)) : Nat :=
  answers.countP fun answer => answer.1.key = key ∧ answer.2 = .granted ∧
    first ≤ answer.1.moment ∧ answer.1.moment ≤ last

namespace Policy

variable {policy : Policy}

theorem nanos_pos : (0 : Rat) < nanosPerSecond := by
  norm_num [nanosPerSecond]

theorem capacity_pos (capacity : 1 ≤ policy.capacity) : (0 : Rat) < policy.capacity := by
  exact_mod_cast capacity

theorem period_pos (period : 0 < policy.period.total) : (0 : Rat) < policy.period.total := by
  exact_mod_cast period

theorem one_le_full (capacity : 1 ≤ policy.capacity) : 1 ≤ (policy.full : Rat) := by
  change 1 ≤ (policy.capacity : Rat)
  exact_mod_cast capacity

theorem inflow_eq (period : 0 < policy.period.total) (nanos : Nat) :
    policy.inflow nanos = nanos * policy.capacity / policy.period.total := by
  have second := nanos_pos.ne'
  have span := (period_pos period).ne'
  change (nanos : Rat) / nanosPerSecond * (policy.capacity / Quantity.ofSpan policy.period) = _
  rw [ofSpan_total]
  field_simp

theorem full_nonneg (policy : Policy) : 0 ≤ (policy.full : Rat) := by
  change 0 ≤ (policy.capacity : Rat)
  positivity

theorem inflow_of_pause (capacity : 1 ≤ policy.capacity) (period : 0 < policy.period.total)
    {one next : Instant}
    (pause : (policy.period.total : Rat) / policy.capacity ≤ (next : Rat) - one) :
    1 ≤ policy.inflow (next - one) := by
  have between : (next : Rat) - one ≤ (next - one : Nat) := by
    rw [sub_le_iff_le_add]
    exact_mod_cast le_tsub_add
  rw [inflow_eq period, one_le_div₀ (period_pos period), ← div_le_iff₀ (capacity_pos capacity)]
  exact pause.trans between

theorem rest_nonneg {level : Rat} (stocked : 0 ≤ level) : 0 ≤ rest level := by
  unfold rest
  split
  · rename_i enough
    exact sub_nonneg.mpr enough
  · exact stocked

theorem rest_le (level : Rat) : rest level ≤ level := by
  unfold rest
  split
  · exact sub_le_self level zero_le_one
  · exact le_rfl

end Policy

theorem Bucket.level_nonneg {policy : Policy} {bucket : Bucket Rat} (stocked : 0 ≤ bucket.tokens)
    (now : Instant) : 0 ≤ bucket.level policy now :=
  le_min (add_nonneg stocked (policy.inflow_nonneg _)) policy.full_nonneg

theorem Bucket.level_untouched {policy : Policy} {tokens : Rat} (below : tokens ≤ policy.full)
    (now : Instant) : Bucket.level policy ⟨tokens, now⟩ now = tokens := by
  have still : policy.inflow 0 = 0 := by simp [Policy.inflow]
  rw [level, Nat.sub_self, still, add_zero]
  exact min_eq_left below

namespace Limiter

variable {limiter : Limiter Rat} {key : String} {now later : Instant}

/-- No bucket was looked at after an instant, and each holds something between nothing and the
capacity. -/
structure Sound (limiter : Limiter Rat) (now : Instant) : Prop where
  settled : limiter.Settled now
  stocked : ∀ (key : String) (bucket : Bucket Rat), limiter.buckets[key]? = some bucket →
    0 ≤ bucket.tokens ∧ bucket.tokens ≤ limiter.policy.full

theorem new_sound (policy : Policy) (now : Instant) : (Limiter.new policy).Sound now where
  settled := new_settled policy now
  stocked key bucket held := by
    rw [Limiter.new, Std.HashMap.getElem?_empty] at held
    cases held

theorem Sound.mono (sound : limiter.Sound now) (order : now ≤ later) : limiter.Sound later :=
  ⟨sound.settled.mono order, sound.stocked⟩

theorem level_le_full (limiter : Limiter Rat) (key : String) (now : Instant) :
    limiter.level key now ≤ limiter.policy.full := by
  unfold level
  cases limiter.buckets[key]? with
  | none => exact le_rfl
  | some bucket => exact Bucket.level_le_full

theorem Sound.level_nonneg (sound : limiter.Sound now) (key : String) (later : Instant) :
    0 ≤ limiter.level key later := by
  unfold level
  cases held : limiter.buckets[key]? with
  | none => exact limiter.policy.full_nonneg
  | some bucket => exact Bucket.level_nonneg (sound.stocked key bucket held).1 later

theorem Sound.roomFor (sound : limiter.Sound now) (key : String) :
    (limiter.roomFor key now).Sound now where
  settled := roomFor_settled sound.settled
  stocked other bucket held := by
    rw [roomFor_policy]
    unfold Limiter.roomFor at held
    split at held
    · -- What is left of a pruned bucket has been refilled.
      rw [prune_bucket] at held
      obtain ⟨refilled, _⟩ := Option.filter_eq_some_iff.mp held
      obtain ⟨before, was, rfl⟩ := Option.map_eq_some_iff.mp refilled
      rw [Bucket.refill_eq]
      exact ⟨Bucket.level_nonneg (sound.stocked other before was).1 now, Bucket.level_le_full⟩
    · exact sound.stocked other bucket held

theorem Sound.check (sound : limiter.Sound now) (key : String) :
    (limiter.check key now).1.Sound now where
  settled := check_settled sound.settled
  stocked other bucket held := by
    rw [check_policy]
    rw [check_eq sound.settled, Std.HashMap.getElem?_insert] at held
    split at held
    · cases held
      exact ⟨Policy.rest_nonneg (sound.level_nonneg key now),
        (Policy.rest_le _).trans (limiter.level_le_full key now)⟩
    · have kept := (sound.roomFor key).stocked other bucket held
      rwa [roomFor_policy] at kept

theorem Sound.after (sound : limiter.Sound now) {checks : List Check} {last : Instant}
    (order : now ≤ last) (ordered : checks.Pairwise (·.moment ≤ ·.moment))
    (between : ∀ check ∈ checks, now ≤ check.moment ∧ check.moment ≤ last) :
    (limiter.after checks).Sound last := by
  induction checks generalizing limiter now with
  | nil => exact sound.mono order
  | cons check rest ih =>
      obtain ⟨first, restOrdered⟩ := List.pairwise_cons.mp ordered
      obtain ⟨reached, early⟩ := between check List.mem_cons_self
      refine ih ((sound.mono reached).check check.key) early restOrdered fun later member => ?_
      exact ⟨first later member, (between later (List.mem_cons_of_mem _ member)).2⟩

theorem after_policy (limiter : Limiter Rat) (checks : List Check) :
    (limiter.after checks).policy = limiter.policy := by
  induction checks generalizing limiter with
  | nil => rfl
  | cons check rest ih => exact (ih _).trans check_policy

/-! What a key may take grows by the inflow and shrinks by what it is granted. -/

theorem level_check_kept (settled : limiter.Settled now) (order : now ≤ later) {asked : String}
    (spared : ¬ (asked = key ∧ (limiter.check asked now).2 = .granted)) :
    (limiter.check asked now).1.level key later = limiter.level key later := by
  by_cases same : asked = key
  · exact level_check_refused settled order (fun granted => spared ⟨same, granted⟩) key
  · exact level_check_other settled order (Ne.symm same)

theorem level_grows (settled : limiter.Settled now) (order : now ≤ later) (key : String) :
    limiter.level key later ≤ limiter.level key now + limiter.policy.inflow (later - now) := by
  rw [← level_level settled order]
  exact min_le_left _ _

theorem level_spent (settled : limiter.Settled now) (asked key : String) :
    (limiter.check asked now).1.level key now +
        (if asked = key ∧ (limiter.check asked now).2 = .granted then 1 else 0) =
      limiter.level key now := by
  by_cases spent : asked = key ∧ (limiter.check asked now).2 = .granted
  · obtain ⟨rfl, granted⟩ := id spent
    rw [check_verdict settled, limiter.policy.verdict_granted] at granted
    have below := (Policy.rest_le _).trans (limiter.level_le_full asked now)
    rw [if_pos spent, level_check_same settled, Bucket.level_untouched below, Policy.rest,
      if_pos granted, sub_add_cancel]
  · rw [if_neg spent, add_zero, level_check_kept settled le_rfl spent]

theorem mem_answers {checks : List Check} {answer : Check × Verdict}
    (member : answer ∈ limiter.answers checks) : answer.1 ∈ checks := by
  induction checks generalizing limiter with
  | nil => cases member
  | cons check rest ih =>
      rcases List.mem_cons.mp member with rfl | later
      · exact List.mem_cons_self
      · exact List.mem_cons_of_mem _ (ih later)

theorem all_from_first {check : Check} {rest : List Check} {start : Instant}
    (following : ∀ other ∈ rest, check.moment ≤ other.moment) (reached : start ≤ check.moment) :
    ∀ other ∈ check :: rest, start ≤ other.moment :=
  List.forall_mem_cons.mpr ⟨reached, fun other member => reached.trans (following other member)⟩

theorem grants_late {checks : List Check} {first last : Instant}
    (late : ∀ check ∈ checks, last < check.moment) :
    grants key first last (limiter.answers checks) = 0 := by
  refine List.countP_eq_zero.mpr fun answer member counted => ?_
  have early := (of_decide_eq_true counted).2.2.2
  exact absurd (late answer.1 (mem_answers member)) (Nat.not_lt_of_le early)

theorem grants_cons_le (key : String) (first last : Instant) (answer : Check × Verdict)
    (rest : List (Check × Verdict)) : (grants key first last (answer :: rest) : Rat) ≤
      grants key first last rest + if answer.1.key = key ∧ answer.2 = .granted then 1 else 0 := by
  by_cases spent : answer.1.key = key ∧ answer.2 = .granted
  · rw [if_pos spent]
    have atMost : grants key first last (answer :: rest) ≤ grants key first last rest + 1 := by
      rw [grants, List.countP_cons]
      apply Nat.add_le_add_left
      split <;> decide
    exact_mod_cast atMost
  · have uncounted : grants key first last (answer :: rest) = grants key first last rest := by
      refine List.countP_cons_of_neg fun counted => ?_
      obtain ⟨same, granted, _⟩ := of_decide_eq_true counted
      exact spent ⟨same, granted⟩
    rw [if_neg spent, add_zero, uncounted]

/-- Up to an instant a key is granted no more than it may take now and what flows in until then. -/
theorem grants_le_level (sound : limiter.Sound now) (key : String) (first : Instant)
    {last : Instant} (order : now ≤ last) {checks : List Check}
    (ordered : checks.Pairwise (·.moment ≤ ·.moment))
    (ahead : ∀ check ∈ checks, now ≤ check.moment) :
    (grants key first last (limiter.answers checks) : Rat) ≤
      limiter.level key now + limiter.policy.inflow (last - now) := by
  induction checks generalizing limiter now with
  | nil => exact add_nonneg (sound.level_nonneg key now) (limiter.policy.inflow_nonneg _)
  | cons check rest ih =>
      obtain ⟨following, restOrdered⟩ := List.pairwise_cons.mp ordered
      have reached := ahead check List.mem_cons_self
      rcases Nat.lt_or_ge last check.moment with late | early
      · -- All the other checks are after the window as well.
        have none : grants key first last (limiter.answers (check :: rest)) = 0 :=
          grants_late (all_from_first following late)
        rw [none, Nat.cast_zero]
        exact add_nonneg (sound.level_nonneg key now) (limiter.policy.inflow_nonneg _)
      · have there := sound.mono reached
        have tail := ih (there.check check.key) early restOrdered following
        have spent := level_spent there.settled check.key key
        have grown := level_grows sound.settled reached key
        have counted := grants_cons_le key first last
          (check, (limiter.check check.key check.moment).2)
          ((limiter.check check.key check.moment).1.answers rest)
        have parts : limiter.policy.inflow (last - now) =
            limiter.policy.inflow (check.moment - now) +
              limiter.policy.inflow (last - check.moment) := by
          rw [← Policy.inflow_add, Nat.add_comm, Nat.sub_add_sub_cancel early reached]
        -- What this check is granted comes out of the level, the rest out of what is left of it.
        rw [check_policy] at tail
        rw [answers, parts]
        dsimp only at counted
        linarith

/-- What was granted before a window leaves at most a full bucket for it. -/
theorem grants_le_window (sound : limiter.Sound now) (key : String) {first last : Instant}
    (reached : now ≤ first) (order : first ≤ last) {checks : List Check}
    (ordered : checks.Pairwise (·.moment ≤ ·.moment))
    (ahead : ∀ check ∈ checks, now ≤ check.moment) :
    (grants key first last (limiter.answers checks) : Rat) ≤
      limiter.policy.full + limiter.policy.inflow (last - first) := by
  induction checks generalizing limiter now with
  | nil => exact add_nonneg limiter.policy.full_nonneg (limiter.policy.inflow_nonneg _)
  | cons check rest ih =>
      obtain ⟨following, restOrdered⟩ := List.pairwise_cons.mp ordered
      rcases Nat.lt_or_ge check.moment first with before | inside
      · have there := sound.mono (ahead check List.mem_cons_self)
        have tail := ih (there.check check.key) before.le restOrdered following
        have uncounted : grants key first last (limiter.answers (check :: rest)) =
            grants key first last ((limiter.check check.key check.moment).1.answers rest) := by
          refine List.countP_cons_of_neg fun counted => ?_
          exact absurd (of_decide_eq_true counted).2.2.1 (Nat.not_le_of_lt before)
        rw [check_policy] at tail
        rw [uncounted]
        exact tail
      · have later := all_from_first following inside
        have bound := grants_le_level (sound.mono reached) key first order ordered later
        exact bound.trans (add_le_add_left (limiter.level_le_full key first) _)

/-! Checks with pauses between them. -/

theorem granted_after_pause (sound : limiter.Sound now) (capacity : 1 ≤ limiter.policy.capacity)
    (enough : 1 ≤ limiter.level key now) (pause : 1 ≤ limiter.policy.inflow (later - now)) :
    1 ≤ (limiter.check key now).1.level key later := by
  rw [level_check_same sound.settled, Policy.rest, if_pos enough]
  refine le_min ?_ (Policy.one_le_full capacity)
  change 1 ≤ limiter.level key now - 1 + limiter.policy.inflow (later - now)
  linarith

theorem paused_granted (sound : limiter.Sound now) (capacity : 1 ≤ limiter.policy.capacity)
    {checks : List Check} (own : ∀ check ∈ checks, check.key = key)
    (ordered : checks.Pairwise (·.moment ≤ ·.moment))
    (ahead : ∀ check ∈ checks, now ≤ check.moment)
    (paused : checks.IsChain fun one next =>
      1 ≤ limiter.policy.inflow (next.moment - one.moment))
    (ready : ∀ check ∈ checks.head?, 1 ≤ limiter.level key check.moment) :
    ∀ answer ∈ limiter.answers checks, answer.2 = .granted := by
  induction checks generalizing limiter now with
  | nil => exact nofun
  | cons check rest ih =>
      obtain ⟨following, restOrdered⟩ := List.pairwise_cons.mp ordered
      obtain ⟨rfl, others⟩ := List.forall_mem_cons.mp own
      obtain ⟨pause, restPaused⟩ := List.isChain_cons.mp paused
      have there := sound.mono (ahead check List.mem_cons_self)
      have enough := ready check rfl
      rw [answers]
      refine List.forall_mem_cons.mpr ⟨?_, ?_⟩
      · rw [check_verdict there.settled]
        exact limiter.policy.verdict_granted.mpr enough
      · apply ih (there.check check.key) _ others restOrdered following
        · rw [check_policy]
          exact restPaused
        · exact fun next isNext => granted_after_pause there capacity enough (pause next isNext)
        · rw [check_policy]
          exact capacity

end Limiter

theorem exists_last (checks : List Check) : ∃ last, ∀ check ∈ checks, check.moment ≤ last :=
  ⟨(checks.map (·.moment)).sum, fun _ member =>
    List.le_sum_of_mem (List.mem_map_of_mem member)⟩

/-- A client of a limit of at least one request in a period gets at most the capacity and what flows
in during a window, and all of its requests if it waits long enough between them; and every bucket
holds something between nothing and the capacity, at any time. -/
theorem traffic_is_bounded (policy : Policy) (capacity : 1 ≤ policy.capacity)
    (period : 0 < policy.period.total) (key : String) (checks : List Check)
    (ordered : checks.Pairwise (·.moment ≤ ·.moment)) :
    let answers := (Limiter.new policy : Limiter Rat).answers checks
    (∀ first last : Instant, first ≤ last →
      (grants key first last answers : Rat) ≤
        policy.capacity + (last - first : Nat) * policy.capacity / policy.period.total) ∧
    ((checks.filter (·.key = key)).IsChain (fun one next =>
        (policy.period.total : Rat) / policy.capacity ≤ (next.moment : Rat) - one.moment) →
      ∀ answer ∈ answers, answer.1.key = key → answer.2 = .granted) ∧
    ∀ (client : String) (bucket : Bucket Rat),
      ((Limiter.new policy).after checks).buckets[client]? = some bucket →
        0 ≤ bucket.tokens ∧ bucket.tokens ≤ policy.capacity := by
  intro answers
  have sound := Limiter.new_sound policy 0
  have ahead : ∀ check ∈ checks, 0 ≤ check.moment := fun _ _ => Nat.zero_le _
  refine ⟨?_, ?_, ?_⟩
  · intro first last order
    rw [← Policy.inflow_eq period]
    exact Limiter.grants_le_window sound key (Nat.zero_le first) order ordered ahead
  · intro spaced answer member same
    have own : ∀ check ∈ checks.filter (·.key = key), check.key = key := fun check member =>
      of_decide_eq_true (List.mem_filter.mp member).2
    have ready : ∀ check ∈ (checks.filter (·.key = key)).head?,
        1 ≤ (Limiter.new policy : Limiter Rat).level key check.moment := by
      intro check _
      rw [Limiter.level_new]
      exact Policy.one_le_full capacity
    have paused := spaced.imp fun one next pause => Policy.inflow_of_pause capacity period pause
    -- The key is told what it would be told if nobody else were there.
    have alone : answer ∈
        (Limiter.new policy : Limiter Rat).answers (checks.filter (·.key = key)) := by
      rw [← Limiter.answers_of_key checks (Alike.start policy key 0) ordered ahead]
      exact List.mem_filter.mpr ⟨member, decide_eq_true same⟩
    exact Limiter.paused_granted sound capacity own (ordered.filter _) (fun _ _ => Nat.zero_le _)
      paused ready answer alone
  · intro client bucket held
    obtain ⟨last, early⟩ := exists_last checks
    have stocked := (sound.after (Nat.zero_le last) ordered fun check member =>
      ⟨Nat.zero_le _, early check member⟩).stocked client bucket held
    rwa [Limiter.after_policy] at stocked

/-- Of two clients that may ask twice a minute one keeps to its share and the other does not. -/
def sharing : List Check :=
  [⟨"10.0.0.1", 0⟩, ⟨"10.0.0.2", 0⟩, ⟨"10.0.0.2", 0⟩, ⟨"10.0.0.2", 1⟩,
    ⟨"10.0.0.1", 30 * nanosPerSecond⟩, ⟨"10.0.0.1", 60 * nanosPerSecond⟩]

theorem sharing_is_bounded :
    let answers := (Limiter.new (.perMinute 2) : Limiter Rat).answers sharing
    grants "10.0.0.2" 0 1 answers ≤ 2 ∧
      ∀ answer ∈ answers, answer.1.key = "10.0.0.1" → answer.2 = .granted := by
  intro answers
  have impatient := traffic_is_bounded (.perMinute 2) (by decide) (by decide) "10.0.0.2" sharing
    (by decide)
  have patient := traffic_is_bounded (.perMinute 2) (by decide) (by decide) "10.0.0.1" sharing
    (by decide)
  constructor
  · have bound := impatient.1 0 1 (by decide)
    have below : (grants "10.0.0.2" 0 1 answers : Rat) < 3 := by
      refine lt_of_le_of_lt bound ?_
      norm_num [Policy.perMinute, Span.total, Span.ofSeconds, nanosPerSecond]
    exact Nat.lt_succ_iff.mp (by exact_mod_cast below)
  · refine patient.2.1 ?_
    decide +kernel

end SecretBroker.RateLimit
