import Mathlib.Data.List.Induction
import SecretBroker.Proofs.Chores
import SecretBroker.Proofs.Provenance

/-!
How long the spans of accepted settings may be. None of the periods that settings start is zero.
But the clock of a service ends some day, and a span can be longer than what is left of it. Then the
sum of the present and the span is no instant, the chore of that period does not start, and the
first value that a cache of that lifetime is to take breaks it.
-/

namespace SecretBroker

theorem Instant.after_isSome (now : Instant) (span : Span) :
    (Instant.after now span).isSome = true ↔ now + span.total < horizon * nanosPerSecond := by
  unfold Instant.after
  split <;> simp_all

theorem Instant.after_isSome_mono {now later : Instant} {span : Span} (order : now ≤ later)
    (reached : (Instant.after later span).isSome = true) :
    (Instant.after now span).isSome = true := by
  rw [after_isSome] at reached ⊢
  exact Nat.lt_of_le_of_lt (Nat.add_le_add_right order span.total) reached

/-- Up to this last instant no period of the settings leads out of the clock's range. -/
def Settings.LastsUntil (settings : Settings) (last : Instant) : Prop :=
  ∀ chore period, settings.period? chore = some period →
    last + period.total < Instant.horizon * nanosPerSecond

namespace Cache

/-- A cache can tell when an entry that it takes now would expire, if it takes any. -/
def CanDate (cache : Cache) (now : Instant) : Prop :=
  0 < cache.ttl.total → (Instant.after now cache.ttl).isSome = true

theorem put_dated {cache : Cache} {now : Instant} (whole : cache.broken = false)
    (dates : cache.CanDate now) (name : String) (value : Secret) :
    (cache.put name value now).1.broken = false ∧ (cache.put name value now).2 ≠ .failed := by
  rw [put_whole cache name value now whole]
  by_cases lives : 0 < cache.ttl.total
  · rw [if_pos lives, store_reached cache name value now (dates lives)]
    exact ⟨whole, by simp⟩
  · rw [if_neg lives]
    exact ⟨whole, by simp⟩

theorem putIfCurrent_dated {cache : Cache} {now : Instant} (whole : cache.broken = false)
    (dates : cache.CanDate now) (name : String) (value : Secret) (generation : Nat) :
    (cache.putIfCurrent name value generation now).1.broken = false ∧
      (cache.putIfCurrent name value generation now).2 ≠ .failed := by
  rw [putIfCurrent_eq]
  by_cases current : cache.generation = generation
  · rw [if_pos current]
    exact put_dated whole dates name value
  · rw [if_neg current]
    exact ⟨whole, by simp⟩

end Cache

namespace Traffic

variable {traffic : Traffic}

/-- The cache is in order: nothing has broken it and a write does not, whoever brings a value gets
it back at once, and a clear drops all entries and counts them. -/
structure InOrder (traffic : Traffic) : Prop where
  whole : traffic.cache.broken = false
  puts : ∀ name value, (traffic.cache.put name value traffic.now).2 ≠ .failed
  returns : ∀ caller lookup value since,
    traffic.stages caller = some (.fetched lookup (.ok value) since) →
      (traffic.step (.settle caller)).history =
        ⟨traffic.now, .returned caller (.ok value)⟩ :: traffic.history
  clears : (traffic.step .clear).cache.entries = [] ∧
    traffic.resolver.invalidate.2 = traffic.cache.entries.length

theorem finish_dated (whole : traffic.cache.broken = false)
    (dates : traffic.cache.CanDate traffic.now) (lookup : Lookup) (answer : Answer Secret) :
    (traffic.resolver.finish lookup answer traffic.now).1.cache.broken = false ∧
      (traffic.resolver.finish lookup answer traffic.now).2 = some answer := by
  cases answer with
  | error error => exact ⟨whole, rfl⟩
  | ok value =>
      have written := Cache.putIfCurrent_dated whole dates lookup.name value lookup.generation
      exact ⟨written.1, if_neg written.2⟩

theorem inOrder_of_dated (whole : traffic.cache.broken = false)
    (dates : traffic.cache.CanDate traffic.now) : InOrder traffic where
  whole := whole
  puts name value := (Cache.put_dated whole dates name value).2
  returns caller lookup value since fetched := by
    have returned := (finish_dated whole dates lookup (.ok value)).2
    simp only [step, fetched, settle, returned]
    rfl
  clears := by
    have cleared : traffic.cache.clear =
        ({ traffic.cache with entries := [], generation := traffic.cache.generation + 1 },
          traffic.cache.entries.length) := by
      rcases traffic.cache.clear_cases with ⟨broken, _⟩ | ⟨_, cleared⟩
      · rw [whole] at broken
        cases broken
      · exact cleared
    constructor
    · exact congrArg (fun after : Cache × Nat => after.1.entries) cleared
    · exact congrArg Prod.snd cleared

theorem now_le_step (traffic : Traffic) (act : Act) : traffic.now ≤ (traffic.step act).now := by
  cases act with
  | look name =>
      unfold step look
      dsimp only
      split <;> exact Nat.le_refl _
  | elapse span => exact Nat.le_add_right _ _
  | ask caller | deliver caller answer | settle caller | giveUp caller =>
      unfold step
      dsimp only
      repeat' split
      all_goals exact Nat.le_refl _
  | clear | sweep moment => exact Nat.le_refl _

theorem step_whole (whole : traffic.cache.broken = false)
    (dates : traffic.cache.CanDate traffic.now) (act : Act) :
    (traffic.step act).cache.broken = false := by
  cases act with
  | look name =>
      have unread := traffic.resolver.begin_cache name traffic.now
      unfold step look
      dsimp only
      split
      · exact (congrArg Cache.broken unread).trans whole
      · exact (congrArg Cache.broken unread).trans whole
  | settle caller =>
      unfold step
      dsimp only
      split
      · rename_i lookup answer since _
        exact (finish_dated whole dates lookup answer).1
      · exact whole
  | clear =>
      rcases traffic.cache.clear_cases with ⟨broken, _⟩ | ⟨_, cleared⟩
      · rw [whole] at broken
        cases broken
      · exact (congrArg (fun after : Cache × Nat => after.1.broken) cleared).trans whole
  | sweep moment => exact (traffic.cache.sweep_broken moment).trans whole
  | elapse span => exact whole
  | ask caller | deliver caller answer | giveUp caller =>
      unfold step
      dsimp only
      split <;> exact whole

theorem run_snoc (ttl : Span) (now : Instant) (acts : List Act) (act : Act) :
    run ttl now (acts ++ [act]) = (run ttl now acts).step act := by
  simp [run]

theorem run_whole {ttl : Span} {last : Instant}
    (dates : ∀ now ≤ last, (Cache.empty ttl).CanDate now) (now : Instant)
    (acts : List Act) (early : (run ttl now acts).now ≤ last) :
    (run ttl now acts).cache.broken = false := by
  induction acts using List.reverseRecOn with
  | nil => rfl
  | append_singleton acts act ih =>
      rw [run_snoc] at early ⊢
      -- Time only goes on, so the state before was early enough as well.
      have before : (run ttl now acts).now ≤ last := Nat.le_trans (now_le_step _ act) early
      apply step_whole (ih before)
      unfold Cache.CanDate
      rw [(run_sound ttl now acts).ttl_eq]
      exact dates _ before

/-- A value whose expiry is no instant breaks the cache that is to take it, and its resolve ends
without an answer. -/
theorem undated_value_breaks {caller : Nat} {lookup : Lookup} {value : Secret}
    {since : Instant}
    (fetched : traffic.stages caller = some (.fetched lookup (.ok value) since))
    (whole : traffic.cache.broken = false)
    (current : traffic.cache.generation = lookup.generation) (lives : 0 < traffic.cache.ttl.total)
    (undated : Instant.after traffic.now traffic.cache.ttl = none) :
    (traffic.step (.settle caller)).now = traffic.now ∧
      (traffic.step (.settle caller)).cache.broken = true ∧
      (traffic.step (.settle caller)).history =
        ⟨traffic.now, .left caller⟩ :: traffic.history := by
  have written : traffic.cache.putIfCurrent lookup.name value lookup.generation traffic.now =
      ({ traffic.cache with broken := true }, .failed) := by
    rw [Cache.putIfCurrent_eq, if_pos current, Cache.put_whole _ _ _ _ whole, if_pos lives,
      Cache.store, undated]
  have broken : (traffic.resolver.finish lookup (.ok value) traffic.now).1.cache.broken = true :=
    congrArg (fun after : Cache × Cache.Writing => after.1.broken) written
  have unanswered : (traffic.resolver.finish lookup (.ok value) traffic.now).2 = none :=
    if_pos (congrArg Prod.snd written)
  simp only [step, fetched, settle, unanswered]
  exact ⟨rfl, broken, rfl⟩

/-- A resolve that is not answered at once comes to where its value can be written back. -/
theorem fetched_after (traffic : Traffic) {name : String} {lookup : Lookup}
    (missed : (traffic.resolver.begin name traffic.now).2 = .fetching lookup)
    (answer : Answer Secret) :
    let after := [.look name, .ask traffic.callers, .deliver traffic.callers answer].foldl
      (step) traffic
    after.now = traffic.now ∧ after.cache = traffic.cache ∧
      after.stages traffic.callers = some (.fetched lookup answer traffic.now) := by
  intro after
  have unread := traffic.resolver.begin_cache name traffic.now
  have looked : traffic.step (.look name) =
      (({ traffic with
        resolver := (traffic.resolver.begin name traffic.now).1
        callers := traffic.callers + 1 } : Traffic).note (.looked traffic.callers name)).advance
        traffic.callers (some (.missed lookup)) := by
    simp only [step, look, missed]
  simp only [after, List.foldl_cons, List.foldl_nil, looked]
  simp only [step, advance, note, Function.update_self]
  exact ⟨trivial, unread, trivial⟩

theorem first_value_breaks {ttl : Span} {now : Instant} (lives : 0 < ttl.total)
    (undated : Instant.after now ttl = none) (value : Secret) :
    let after := run ttl now [.look "A", .ask 0, .deliver 0 (.ok value), .settle 0]
    after.now = now ∧ after.cache.broken = true ∧ after.history.head? = some ⟨now, .left 0⟩ := by
  have missed : ((start ttl now).resolver.begin "A" now).2 = .fetching ⟨"A", 0⟩ := by
    -- Nothing is cached yet, so the look is no hit.
    rcases (start ttl now).resolver.begin_cases "A" now with
      ⟨empty, _⟩ | ⟨held, hit, _⟩ | ⟨_, fetching⟩
    · exact absurd empty (by decide)
    · obtain ⟨_, _, member, _⟩ := Cache.read_hit _ _ _ _ hit
      cases member
    · exact fetching
  obtain ⟨still, unread, fetched⟩ :=
    fetched_after (start ttl now) missed (.ok value)
  obtain ⟨ended, broken, left⟩ := undated_value_breaks fetched
    (congrArg Cache.broken unread) (congrArg Cache.generation unread)
    (by rw [unread]; exact lives) (by rw [still, unread]; exact undated)
  rw [still] at left
  exact ⟨ended.trans still, broken, congrArg List.head? left⟩

/-- All runs up to an instant are in order if an entry can still be dated at that instant, and some
run is not otherwise. -/
theorem runs_inOrder_iff (ttl : Span) (last : Instant) :
    (∀ now acts, (run ttl now acts).now ≤ last → (run ttl now acts).InOrder) ↔
      (Cache.empty ttl).CanDate last := by
  constructor
  · intro ordered lives
    by_contra undated
    obtain ⟨ended, broken, _⟩ :=
      first_value_breaks lives (Option.not_isSome_iff_eq_none.mp undated) ⟨"v"⟩
    -- The run that breaks the cache takes no time, so it is one of those that are in order.
    have whole := (ordered last _ (Nat.le_of_eq ended)).whole
    cases broken.symm.trans whole
  · intro dated now acts early
    have dates : ∀ moment ≤ last, (Cache.empty ttl).CanDate moment := by
      intro moment sooner lives
      exact Instant.after_isSome_mono sooner (dated lives)
    apply inOrder_of_dated (run_whole dates now acts early)
    unfold Cache.CanDate
    rw [(run_sound ttl now acts).ttl_eq]
    exact dates _ early

end Traffic

/-- What accepted settings promise of their spans up to a last instant of the service. No period is
zero; each leads from every instant to another one exactly if it leads from the last one to another;
and exactly if that of the cache does, every resolve in every run returns the value that it brings
and the cache can always be written to and cleared. -/
theorem accepted_spans_last {found : Settings.Variables} {settings : Settings}
    (accepted : Settings.read found = .ok settings) (last : Instant) :
    let ttl := settings.vault.cacheTtl
    (∀ chore period, settings.period? chore = some period → period.isZero = false) ∧
    (∀ now, Sweeper.start? (.empty ttl) now = (settings.period? .sweeping).bind fun period =>
      (Instant.after now period).map fun _ => ⟨now, period⟩) ∧
    (∀ connection client run outcome task, settings.vault.connection = .ok connection →
      Rehearsal.Connected.connect connection client = (.cli run, outcome) →
      run.refresh = some task → settings.period? .renewal = some task.interval) ∧
    ((∀ now ≤ last, ∀ chore period, settings.period? chore = some period →
      (Instant.after now period).isSome = true) ↔ settings.LastsUntil last) ∧
    ((∀ now acts, (Traffic.run ttl now acts).now ≤ last → (Traffic.run ttl now acts).InOrder) ↔
        ∀ period, settings.period? .sweeping = some period →
          last + period.total < Instant.horizon * nanosPerSecond) := by
  intro ttl
  refine ⟨?_, sweeping_starts settings, ?_, ?_, ?_⟩
  · intro chore period starts
    exact (Settings.read_accepted accepted).period_nonzero starts
  · intro connection client run outcome task connects connected starts
    exact renewal_starts connects client connected starts
  · constructor
    · intro reach chore period starts
      have reached := reach last (Nat.le_refl last) chore period starts
      exact (Instant.after_isSome last period).mp reached
    · intro lasts now early chore period starts
      have reached := (Instant.after_isSome last period).mpr (lasts chore period starts)
      exact Instant.after_isSome_mono early reached
  · rw [Traffic.runs_inOrder_iff]
    constructor
    · intro dated period starts
      obtain ⟨lives, rfl⟩ := (sweeping_iff settings period).mp starts
      exact (Instant.after_isSome last ttl).mp (dated lives)
    · intro lasts lives
      have starts := (sweeping_iff settings ttl).mpr ⟨lives, rfl⟩
      exact (Instant.after_isSome last ttl).mpr (lasts ttl starts)

/-- As few variables as settings need, with a session at hand, and a lifetime for the cache. -/
def leastVariables (cacheTtl : String) : Settings.Variables :=
  [("API_KEY", "0123456789abcdef0123456789abcdef"),
    ("VAULTWARDEN_URL", "https://vault.example.com"),
    ("VAULTWARDEN_ACCESS_TOKEN", "session"),
    ("CACHE_TTL", cacheTtl)]

theorem exists_of_toOption {α ε β : Type} {result : Except ε α} {f : α → β} {value : β}
    (found : result.toOption.map f = some value) :
    ∃ content, result = .ok content ∧ f content = value := by
  cases result with
  | error fault => cases found
  | ok content => exact ⟨content, rfl, Option.some.inj found⟩

/-- The last instant before half of the clock's range is over, after more than a hundred thousand
million years. -/
def farOff : Instant := 0x4000000000000000 * nanosPerSecond - 1

theorem short_lifetime_lasts :
    ∃ settings, Settings.read (leastVariables "5m") = .ok settings ∧
      ∀ now acts,
        (Traffic.run settings.vault.cacheTtl now acts).now ≤ farOff →
          (Traffic.run settings.vault.cacheTtl now acts).InOrder := by
  have accepted : (Settings.read (leastVariables "5m")).toOption.map (·.period? .sweeping) =
      some (some ⟨300, 0⟩) := by decide +kernel
  obtain ⟨settings, accepted, sweeping⟩ := exists_of_toOption accepted
  refine ⟨settings, accepted, ?_⟩
  apply (accepted_spans_last accepted farOff).2.2.2.2.mpr
  intro period starts
  rw [sweeping] at starts
  cases starts
  decide

/-- A lifetime that no instant can be late enough for is accepted, and the first resolve ends
without the value that it brought. -/
theorem overlong_lifetime_breaks :
    ∃ settings, Settings.read (leastVariables "9223372036854775807s") = .ok settings ∧
      Instant.after 0 settings.vault.cacheTtl = none ∧
      let traffic := Traffic.run settings.vault.cacheTtl 0
        [.look "A", .ask 0, .deliver 0 (.ok ⟨"v"⟩), .settle 0]
      traffic.history.head? = some ⟨0, .left 0⟩ ∧ traffic.cache.broken = true ∧
        ¬ traffic.InOrder := by
  have accepted :
      (Settings.read (leastVariables "9223372036854775807s")).toOption.map (·.vault.cacheTtl) =
        some ⟨9223372036854775807, 0⟩ := by decide +kernel
  obtain ⟨settings, accepted, overlong⟩ := exists_of_toOption accepted
  have undated : Instant.after 0 settings.vault.cacheTtl = none := by
    rw [overlong]
    decide
  have lives : 0 < settings.vault.cacheTtl.total := by
    rw [overlong]
    decide
  obtain ⟨_, broken, left⟩ := Traffic.first_value_breaks lives undated ⟨"v"⟩
  refine ⟨settings, accepted, undated, left, broken, ?_⟩
  intro ordered
  cases broken.symm.trans ordered.whole

end SecretBroker
