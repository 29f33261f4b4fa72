import SecretBroker.Proofs.LastingSpans
import SecretBroker.Proofs.ResolveCalls
import SecretBroker.Proofs.Resolving

/-!
What the counters of lookups stand for. Whoever looks at the cache is counted as a hit or a miss
while the cache is whole, and not at all where nothing is cached; every miss has its fetch, and
every fetch that returns is counted by its outcome. The one exception are looks at a cache that a
write has broken. Their fetches begin, and nothing is counted.
-/

namespace SecretBroker

/-- The class of a failure, if the answer is one. -/
def failureOf? : Answer Secret → Option VaultError.Kind
  | .ok _ => none
  | .error error => some error.kind

namespace Milestone

/-- A resolve that reads the cache: every one of a name that is not empty does. -/
def reads : Milestone → Bool
  | .called _ name => name ≠ ""
  | _ => false

def begins : Milestone → Bool
  | .begun _ => true
  | _ => false

def returns : Milestone → Bool
  | .fetched _ _ => true
  | _ => false

def brings (outcome : Option VaultError.Kind) : Milestone → Bool
  | .fetched _ answer => failureOf? answer = outcome
  | _ => false

def cancels : Milestone → Bool
  | .cancelled _ => true
  | _ => false

def panics : Milestone → Bool
  | .panicked _ => true
  | _ => false

/-- A fetch is no longer in flight. -/
def lands (milestone : Milestone) : Bool :=
  milestone.returns || milestone.cancels || milestone.panics

/-- A value is answered without a fetch. -/
def servesValue : Milestone → Bool
  | .served _ (.ok _) => true
  | _ => false

/-- A resolve ends without an answer, for its write broke the cache. -/
def breaks : Milestone → Bool
  | .ended _ none => true
  | _ => false

end Milestone

namespace Cache

/-- Only a write that cannot tell when its entry expires fails. -/
theorem putIfCurrent_failed {cache : Cache} {name : String} {value : Secret} {generation : Nat}
    {now : Instant} (failed : (cache.putIfCurrent name value generation now).2 = .failed) :
    Instant.after now cache.ttl = none := by
  rcases cache.putIfCurrent_cases name value generation now with skipped | ⟨whole, _, _⟩
  · rw [skipped] at failed
    cases failed
  · by_contra reached
    have dates : cache.CanDate now := fun _ => Option.isSome_iff_ne_none.mpr reached
    exact (putIfCurrent_dated whole dates name value generation).2 failed

end Cache

namespace Resolver

theorem finish_tally (resolver : Resolver) (lookup : Lookup) (answer : Answer Secret)
    (now : Instant) :
    (resolver.finish lookup answer now).1.tally =
      .lookup (failureOf? answer) :: resolver.tally := by
  cases answer <;> rfl

/-- The end of a fetch leaves a cache as whole as it was and is answered, or its value has no
expiry and breaks the cache. -/
theorem finish_cases (resolver : Resolver) (lookup : Lookup) (answer : Answer Secret)
    (now : Instant) :
    (resolver.finish lookup answer now).1.cache.ttl = resolver.cache.ttl ∧
      (((resolver.finish lookup answer now).1.cache.broken = resolver.cache.broken ∧
          (resolver.finish lookup answer now).2 = some answer) ∨
        ((resolver.finish lookup answer now).1.cache.broken = true ∧
          (resolver.finish lookup answer now).2 = none ∧
          Instant.after now resolver.cache.ttl = none)) := by
  cases answer with
  | error error => exact ⟨rfl, Or.inl ⟨rfl, rfl⟩⟩
  | ok value =>
      rcases resolver.finish_value lookup value now with
        ⟨kept, answered⟩ | ⟨whole, _, stored, answered⟩ | ⟨broken, unanswered⟩
      · rw [kept]
        exact ⟨rfl, Or.inl ⟨rfl, answered⟩⟩
      · rw [stored]
        exact ⟨rfl, Or.inl ⟨rfl, answered⟩⟩
      · rw [broken]
        refine ⟨rfl, Or.inr ⟨rfl, unanswered, ?_⟩⟩
        by_contra reached
        have written : (resolver.cache.putIfCurrent lookup.name value lookup.generation now).2 ≠
            .failed := fun failed => reached (Cache.putIfCurrent_failed failed)
        cases (if_neg written).symm.trans unanswered

end Resolver

namespace ResolveCalls

/-- How many fetches began after a write had broken the cache. -/
def unseen : List Milestone → Nat
  | [] => 0
  | milestone :: earlier =>
    unseen earlier + if milestone.begins && earlier.any Milestone.breaks then 1 else 0

/-- What a step adds to the records, and what it thereby does to the rest. -/
structure Adds (before after : ResolveCalls) (counters : List Counter)
    (milestones : List Milestone) : Prop where
  tally : after.tally = counters ++ before.tally
  history : after.history = milestones ++ before.history
  ttl : after.cache.ttl = before.cache.ttl
  order : before.now ≤ after.now
  broken : after.cache.broken = (before.cache.broken || milestones.any Milestone.breaks)
  flying : after.flying.length + milestones.countP Milestone.lands =
    before.flying.length + milestones.countP Milestone.begins

/-- All that a step can do. -/
inductive Moves (before after : ResolveCalls) : Prop where
  | quiet (added : Adds before after [] [])
  | refused (caller : Nat)
      (added : Adds before after []
        [.served caller (.error Resolver.emptyName), .called caller ""])
  | hit (caller : Nat) (name : String) (value : Secret) (filled : name ≠ "")
      (lives : 0 < before.cache.ttl.total) (whole : before.cache.broken = false)
      (added : Adds before after [.cacheHit] [.served caller (.ok value), .called caller name])
  | missed (caller : Nat) (name : String) (filled : name ≠ "")
      (lives : 0 < before.cache.ttl.total) (whole : before.cache.broken = false)
      (added : Adds before after [.cacheMiss] [.begun caller, .called caller name])
  | unread (caller : Nat) (name : String) (filled : name ≠ "")
      (off : ¬ 0 < before.cache.ttl.total ∨ before.cache.broken = true)
      (added : Adds before after [] [.begun caller, .called caller name])
  | fetched (caller : Nat) (answer : Answer Secret)
      (added : Adds before after [.lookup (failureOf? answer)]
        [.ended caller (some answer), .fetched caller answer])
  | broke (caller : Nat) (answer : Answer Secret)
      (undated : Instant.after before.now before.cache.ttl = none)
      (added : Adds before after [.lookup (failureOf? answer)]
        [.ended caller none, .fetched caller answer])
  | cancelled (caller : Nat) (added : Adds before after [] [.cancelled caller])
  | panicked (caller : Nat) (added : Adds before after [] [.panicked caller])

variable {calls : ResolveCalls}

theorem flight_erased {caller : Nat} {flight : Nat × Lookup}
    (found : calls.flight? caller = some flight) :
    (calls.flying.erase flight).length + 1 = calls.flying.length := by
  have member : flight ∈ calls.flying := List.mem_of_find?_eq_some found
  rw [List.length_erase_of_mem member]
  exact Nat.sub_add_cancel (List.length_pos_of_mem member)

theorem resolve_answered {name : String} {counters : List Counter} {answer : Answer Secret}
    (began : calls.resolver.begin name calls.now =
      (calls.resolver.count counters, .answered answer)) :
    Adds calls (calls.resolve name) counters
      [.served calls.callers answer, .called calls.callers name] := by
  unfold resolve
  rw [began]
  exact ⟨rfl, rfl, rfl, Nat.le_refl _, (Bool.or_false _).symm, rfl⟩

theorem resolve_fetching {name : String} {counters : List Counter} {lookup : Lookup}
    (began : calls.resolver.begin name calls.now =
      (calls.resolver.count counters, .fetching lookup)) :
    Adds calls (calls.resolve name) counters [.begun calls.callers, .called calls.callers name] := by
  unfold resolve
  rw [began]
  exact ⟨rfl, rfl, rfl, Nat.le_refl _, (Bool.or_false _).symm, rfl⟩

theorem resolve_moves (calls : ResolveCalls) (name : String) :
    Moves calls (calls.resolve name) := by
  by_cases filled : name = ""
  · subst filled
    exact .refused _ (resolve_answered (calls.resolver.begin_empty calls.now))
  · have began := calls.resolver.begin_filled calls.now filled
    cases reading : calls.resolver.cache.read name calls.now with
    | hit value =>
        rw [reading] at began
        obtain ⟨lives, whole⟩ := Cache.read_on (fun off => by cases reading.symm.trans off)
        exact .hit _ name value filled lives whole (resolve_answered began)
    | miss =>
        rw [reading] at began
        obtain ⟨lives, whole⟩ := Cache.read_on (fun off => by cases reading.symm.trans off)
        exact .missed _ name filled lives whole (resolve_fetching began)
    | off =>
        rw [reading] at began
        have off := (Cache.read_off_iff calls.cache name calls.now).mp reading
        exact .unread _ name filled off (resolve_fetching began)

theorem fetch_adds {caller : Nat} {flight : Nat × Lookup}
    (found : calls.flight? caller = some flight) {answer : Answer Secret}
    {settled : Option (Answer Secret)}
    (ended : (calls.resolver.finish flight.2 answer calls.now).2 = settled)
    (ttl : (calls.resolver.finish flight.2 answer calls.now).1.cache.ttl = calls.cache.ttl)
    (broken : (calls.resolver.finish flight.2 answer calls.now).1.cache.broken =
      (calls.cache.broken || settled.isNone)) :
    Adds calls (calls.fetch flight answer) [.lookup (failureOf? answer)]
      [.ended flight.1 settled, .fetched flight.1 answer] := by
  subst ended
  constructor
  case tally => exact calls.resolver.finish_tally flight.2 answer calls.now
  case history => rfl
  case ttl => exact ttl
  case order => exact Nat.le_refl _
  case broken =>
    refine broken.trans ?_
    cases (calls.resolver.finish flight.2 answer calls.now).2 <;> rfl
  case flying => exact flight_erased found

theorem fetch_moves {caller : Nat} {flight : Nat × Lookup}
    (found : calls.flight? caller = some flight) (answer : Answer Secret) :
    Moves calls (calls.fetch flight answer) := by
  obtain ⟨ttl, ⟨broken, answered⟩ | ⟨broken, unanswered, undated⟩⟩ :=
    calls.resolver.finish_cases flight.2 answer calls.now
  · apply Moves.fetched flight.1 answer
    exact fetch_adds found answered ttl (broken.trans (Bool.or_false _).symm)
  · apply Moves.broke flight.1 answer undated
    exact fetch_adds found unanswered ttl (broken.trans (Bool.or_true _).symm)

theorem cut_adds {caller : Nat} {flight : Nat × Lookup}
    (found : calls.flight? caller = some flight) {milestone : Milestone}
    (lands : milestone.lands = true) (begins : milestone.begins = false)
    (breaks : milestone.breaks = false) :
    Adds calls (calls.cut flight milestone) [] [milestone] where
  tally := rfl
  history := rfl
  ttl := rfl
  order := Nat.le_refl _
  broken := by
    rw [List.any_cons, breaks]
    exact (Bool.or_false _).symm
  flying := by simpa [lands, begins, cut, note, withFlying] using flight_erased found

theorem quiet_of_cache {calls : ResolveCalls} {resolver : Resolver}
    (tally : resolver.tally = calls.tally) (ttl : resolver.cache.ttl = calls.cache.ttl)
    (broken : resolver.cache.broken = calls.cache.broken) :
    Moves calls (calls.withResolver resolver) :=
  .quiet ⟨tally, rfl, ttl, Nat.le_refl _, broken.trans (Bool.or_false _).symm, rfl⟩

theorem quiet_refl (calls : ResolveCalls) : Moves calls calls :=
  quiet_of_cache rfl rfl rfl

theorem onFlight_moves (caller : Nat) {act : Nat × Lookup → ResolveCalls}
    (moves : ∀ flight, calls.flight? caller = some flight → Moves calls (act flight)) :
    Moves calls ((calls.flight? caller).elim calls act) := by
  cases found : calls.flight? caller with
  | none => exact quiet_refl calls
  | some flight => exact moves flight found

theorem step_moves (calls : ResolveCalls) (act : Act) : Moves calls (calls.step act) := by
  cases act with
  | resolve name => exact resolve_moves calls name
  | fetch caller answer =>
      apply onFlight_moves
      intro flight found
      exact fetch_moves found answer
  | cancel caller =>
      apply onFlight_moves
      intro flight found
      exact .cancelled caller (cut_adds found rfl rfl rfl)
  | panic caller =>
      apply onFlight_moves
      intro flight found
      exact .panicked caller (cut_adds found rfl rfl rfl)
  | clear => exact quiet_of_cache rfl calls.cache.clear_ttl calls.cache.clear_broken
  | sweep moment =>
      exact quiet_of_cache rfl (calls.cache.sweep_ttl moment) (calls.cache.sweep_broken moment)
  | elapse span =>
      exact .quiet ⟨rfl, rfl, rfl, Nat.le_add_right _ _, (Bool.or_false _).symm, rfl⟩

/-- The counters that tell what happened whatever the state of the cache is. -/
structure Booked (tally : Tally) (history : List Milestone) : Prop where
  hits : tally.total "secret_cache_hits_total" = history.countP Milestone.servesValue
  upstream : tally.total "secret_upstream_requests_total" = history.countP Milestone.returns
  outcomes : ∀ outcome, tally.count (.lookup outcome) = history.countP (Milestone.brings outcome)

theorem Booked.append {later earlier : Tally} {milestones history : List Milestone}
    (added : Booked later milestones) (before : Booked earlier history) :
    Booked (later ++ earlier) (milestones ++ history) where
  hits := by rw [Tally.total_append, List.countP_append, added.hits, before.hits]
  upstream := by rw [Tally.total_append, List.countP_append, added.upstream, before.upstream]
  outcomes outcome := by
    rw [List.count_append, List.countP_append, added.outcomes, before.outcomes]

theorem booked_fetched (caller : Nat) (answer : Answer Secret) (settled : Option (Answer Secret)) :
    Booked [.lookup (failureOf? answer)] [.ended caller settled, .fetched caller answer] where
  hits := rfl
  upstream := rfl
  outcomes outcome := by
    by_cases same : failureOf? answer = outcome
    · simp [Milestone.brings, same]
    · simp [Milestone.brings, same]

theorem Moves.booked {before after : ResolveCalls} (moves : Moves before after)
    (booked : Booked before.tally before.history) : Booked after.tally after.history := by
  have join {counters : List Counter} {milestones : List Milestone}
      (added : Adds before after counters milestones) (fits : Booked counters milestones) :
      Booked after.tally after.history := by
    rw [added.tally, added.history]
    exact fits.append booked
  cases moves with
  | quiet added => exact join added ⟨rfl, rfl, fun _ => rfl⟩
  | refused caller added => exact join added ⟨rfl, rfl, fun _ => rfl⟩
  | hit caller name value filled lives whole added => exact join added ⟨rfl, rfl, fun _ => rfl⟩
  | missed caller name filled lives whole added => exact join added ⟨rfl, rfl, fun _ => rfl⟩
  | unread caller name filled off added => exact join added ⟨rfl, rfl, fun _ => rfl⟩
  | fetched caller answer added => exact join added (booked_fetched caller answer _)
  | broke caller answer undated added => exact join added (booked_fetched caller answer _)
  | cancelled caller added | panicked caller added =>
      exact join added ⟨rfl, rfl, fun _ => rfl⟩

/-- The counters of looks at the cache. Where values are cached, some looks were skipped. -/
structure Looked (ttl : Span) (tally : Tally) (history : List Milestone) (skipped : Nat) :
    Prop where
  looks : 0 < ttl.total →
    tally.total "secret_cache_hits_total" + tally.total "secret_cache_misses_total" + skipped =
      history.countP Milestone.reads
  misses : 0 < ttl.total →
    tally.total "secret_cache_misses_total" + skipped = history.countP Milestone.begins
  uncached : ¬ 0 < ttl.total →
    tally.total "secret_cache_hits_total" = 0 ∧ tally.total "secret_cache_misses_total" = 0 ∧
      history.countP Milestone.begins = history.countP Milestone.reads

theorem Looked.append {ttl : Span} {later earlier : Tally} {milestones history : List Milestone}
    {recent skipped : Nat} (added : Looked ttl later milestones recent)
    (before : Looked ttl earlier history skipped) :
    Looked ttl (later ++ earlier) (milestones ++ history) (skipped + recent) := by
  constructor
  case looks =>
    intro lives
    rw [Tally.total_append, Tally.total_append, List.countP_append, ← added.looks lives,
      ← before.looks lives]
    omega
  case misses =>
    intro lives
    rw [Tally.total_append, List.countP_append, ← added.misses lives, ← before.misses lives]
    omega
  case uncached =>
    intro lifeless
    obtain ⟨hits, misses, begun⟩ := before.uncached lifeless
    obtain ⟨laterHits, laterMisses, laterBegun⟩ := added.uncached lifeless
    rw [Tally.total_append, Tally.total_append, List.countP_append, List.countP_append, hits,
      misses, begun, laterHits, laterMisses, laterBegun]
    exact ⟨rfl, rfl, rfl⟩

theorem looked_idle (ttl : Span) {counters : List Counter} {milestones : List Milestone}
    (hits : Tally.total "secret_cache_hits_total" counters = 0)
    (misses : Tally.total "secret_cache_misses_total" counters = 0)
    (reads : milestones.countP Milestone.reads = 0)
    (begins : milestones.countP Milestone.begins = 0) : Looked ttl counters milestones 0 where
  looks _ := by rw [hits, misses, reads]
  misses _ := by rw [misses, begins]
  uncached _ := ⟨hits, misses, begins.trans reads.symm⟩

theorem looked_hit {ttl : Span} (lives : 0 < ttl.total) (caller : Nat) {name : String}
    (filled : name ≠ "") (value : Secret) :
    Looked ttl [.cacheHit] [.served caller (.ok value), .called caller name] 0 where
  looks _ := by simp [Milestone.reads, filled, Counter.name]
  misses _ := rfl
  uncached lifeless := absurd lives lifeless

theorem reads_begun (caller : Nat) {name : String} (filled : name ≠ "") :
    [Milestone.begun caller, .called caller name].countP Milestone.reads = 1 := by
  simp [Milestone.reads, filled]

theorem looked_miss {ttl : Span} (lives : 0 < ttl.total) (caller : Nat) {name : String}
    (filled : name ≠ "") : Looked ttl [.cacheMiss] [.begun caller, .called caller name] 0 where
  looks _ := (reads_begun caller filled).symm
  misses _ := rfl
  uncached lifeless := absurd lives lifeless

theorem looked_off {ttl : Span} (caller : Nat) {name : String} (filled : name ≠ "")
    {skipped : Nat} (unread : 0 < ttl.total → skipped = 1) :
    Looked ttl [] [.begun caller, .called caller name] skipped where
  looks lives := by
    rw [unread lives]
    exact (reads_begun caller filled).symm
  misses lives := by
    rw [unread lives]
    rfl
  uncached _ := ⟨rfl, rfl, (reads_begun caller filled).symm⟩

theorem Moves.looked {before after : ResolveCalls} (moves : Moves before after)
    (broken : before.cache.broken = before.history.any Milestone.breaks)
    (looked : Looked before.cache.ttl before.tally before.history (unseen before.history)) :
    Looked before.cache.ttl after.tally after.history (unseen after.history) := by
  have join {counters : List Counter} {milestones : List Milestone} {recent : Nat}
      (added : Adds before after counters milestones)
      (seen : Looked before.cache.ttl counters milestones recent)
      (unread : unseen (milestones ++ before.history) = unseen before.history + recent) :
      Looked before.cache.ttl after.tally after.history (unseen after.history) := by
    rw [added.tally, added.history, unread]
    exact seen.append looked
  have begun (caller : Nat) (name : String) :
      unseen ([.begun caller, .called caller name] ++ before.history) =
        unseen before.history + if before.cache.broken then 1 else 0 := by
    simp [unseen, Milestone.begins, Milestone.breaks, broken]
  cases moves with
  | quiet added => exact join added (looked_idle _ rfl rfl rfl rfl) rfl
  | refused caller added => exact join added (looked_idle _ rfl rfl rfl rfl) rfl
  | hit caller name value filled lives whole added =>
      exact join added (looked_hit lives caller filled value) rfl
  | missed caller name filled lives whole added =>
      rw [whole] at begun
      exact join added (looked_miss lives caller filled) (begun caller name)
  | unread caller name filled off added =>
      refine join added (looked_off caller filled ?_) (begun caller name)
      intro lives
      exact if_pos (off.resolve_left (not_not_intro lives))
  | fetched caller answer added => exact join added (looked_idle _ rfl rfl rfl rfl) rfl
  | broke caller answer undated added => exact join added (looked_idle _ rfl rfl rfl rfl) rfl
  | cancelled caller added | panicked caller added =>
      exact join added (looked_idle _ rfl rfl rfl rfl) rfl

/-- What the counters of a state stand at, by the milestones so far. -/
structure Accounted (ttl : Span) (calls : ResolveCalls) : Prop where
  lifetime : calls.cache.ttl = ttl
  broken : calls.cache.broken = calls.history.any Milestone.breaks
  undated : calls.cache.broken = true → Instant.after calls.now ttl = none
  booked : Booked calls.tally calls.history
  looked : Looked ttl calls.tally calls.history (unseen calls.history)
  flights : calls.history.countP Milestone.begins =
    calls.flying.length + calls.history.countP Milestone.lands

theorem start_accounted (ttl : Span) (now : Instant) : Accounted ttl (start ttl now) where
  lifetime := rfl
  broken := rfl
  undated := nofun
  booked := ⟨rfl, rfl, fun _ => rfl⟩
  looked := ⟨fun _ => rfl, fun _ => rfl, fun _ => ⟨rfl, rfl, rfl⟩⟩
  flights := rfl

theorem Moves.adds {before after : ResolveCalls} (moves : Moves before after) :
    ∃ counters milestones, Adds before after counters milestones ∧
      (milestones.any Milestone.breaks = true →
        Instant.after before.now before.cache.ttl = none) := by
  cases moves with
  | quiet added | refused _ added | hit _ _ _ _ _ _ added | missed _ _ _ _ _ added
  | unread _ _ _ _ added | fetched _ _ added | cancelled _ added | panicked _ added =>
      exact ⟨_, _, added, nofun⟩
  | broke caller answer undated added => exact ⟨_, _, added, fun _ => undated⟩

theorem Moves.accounted {ttl : Span} {before after : ResolveCalls} (moves : Moves before after)
    (accounted : Accounted ttl before) : Accounted ttl after := by
  obtain ⟨counters, milestones, added, undated⟩ := moves.adds
  have lifetime := accounted.lifetime
  subst lifetime
  constructor
  case lifetime => exact added.ttl
  case broken =>
    rw [added.broken, added.history, List.any_append, accounted.broken, Bool.or_comm]
  case undated =>
    intro broken
    rw [added.broken, Bool.or_eq_true] at broken
    have past : Instant.after before.now before.cache.ttl = none :=
      broken.elim accounted.undated undated
    by_contra reached
    have sooner := Instant.after_isSome_mono added.order (Option.isSome_iff_ne_none.mpr reached)
    rw [past] at sooner
    cases sooner
  case booked => exact moves.booked accounted.booked
  case looked => exact moves.looked accounted.broken accounted.looked
  case flights =>
    have flown := added.flying
    have flights := accounted.flights
    rw [added.history, List.countP_append, List.countP_append]
    omega

theorem run_snoc (ttl : Span) (now : Instant) (acts : List Act) (act : Act) :
    run ttl now (acts ++ [act]) = (run ttl now acts).step act := by
  simp [run]

theorem run_accounted (ttl : Span) (now : Instant) (acts : List Act) :
    Accounted ttl (run ttl now acts) := by
  induction acts using List.reverseRecOn with
  | nil => exact start_accounted ttl now
  | append_singleton acts act ih =>
      rw [run_snoc]
      exact (step_moves _ act).accounted ih

theorem lands_count (history : List Milestone) :
    history.countP Milestone.lands = history.countP Milestone.returns +
      history.countP Milestone.cancels + history.countP Milestone.panics := by
  induction history with
  | nil => rfl
  | cons milestone earlier ih =>
      have one : (if milestone.lands then 1 else 0) = (if milestone.returns then 1 else 0) +
          (if milestone.cancels then 1 else 0) + if milestone.panics then 1 else 0 := by
        cases milestone <;> rfl
      rw [List.countP_cons, List.countP_cons, List.countP_cons, List.countP_cons, ih, one]
      omega

theorem unseen_of_whole {history : List Milestone}
    (whole : history.any Milestone.breaks = false) : unseen history = 0 := by
  induction history with
  | nil => rfl
  | cons milestone earlier ih =>
      rw [List.any_cons, Bool.or_eq_false_iff] at whole
      simp [unseen, whole.2, ih whole.2]

/-- What the counters of lookups stand at after any run. Where values are cached, hits and misses
together are the looks at the cache and misses are the fetches that began, but for those that began
at a broken cache; there are none of those while an entry can be dated. Where nothing is cached
neither is counted. Lookups that were sent to the vault are the fetches that returned, each under
the outcome of its answer, and hits are the values that were answered without a fetch. -/
theorem lookups_accounted (ttl : Span) (now : Instant) (acts : List Act) :
    let calls := run ttl now acts
    let stands := fun name => calls.tally.total name
    let seen := fun kind => calls.history.countP kind
    let law := stands "secret_cache_hits_total" + stands "secret_cache_misses_total" =
        seen Milestone.reads ∧ stands "secret_cache_misses_total" = seen Milestone.begins
    (0 < ttl.total →
      (stands "secret_cache_hits_total" + stands "secret_cache_misses_total" +
          unseen calls.history = seen Milestone.reads ∧
        stands "secret_cache_misses_total" + unseen calls.history = seen Milestone.begins) ∧
      (law ↔ unseen calls.history = 0) ∧
      ((Instant.after calls.now ttl).isSome = true → law)) ∧
    (¬ 0 < ttl.total →
      stands "secret_cache_hits_total" = 0 ∧ stands "secret_cache_misses_total" = 0 ∧
        seen Milestone.begins = seen Milestone.reads) ∧
    stands "secret_upstream_requests_total" = seen Milestone.returns ∧
    seen Milestone.begins = seen Milestone.returns +
      (calls.flying.length + seen Milestone.cancels + seen Milestone.panics) ∧
    (∀ outcome, calls.tally.count (.lookup outcome) = seen (Milestone.brings outcome)) ∧
    stands "secret_cache_hits_total" = seen Milestone.servesValue := by
  intro calls stands seen law
  have accounted : Accounted ttl calls := run_accounted ttl now acts
  have exact_iff (lives : 0 < ttl.total) : law ↔ unseen calls.history = 0 := by
    have looks := accounted.looked.looks lives
    have misses := accounted.looked.misses lives
    constructor
    · rintro ⟨_, exact⟩
      exact Nat.add_left_cancel (misses.trans exact.symm)
    · intro none
      rw [none] at looks misses
      exact ⟨looks, misses⟩
  refine ⟨?_, accounted.looked.uncached, accounted.booked.upstream, ?_, accounted.booked.outcomes,
    accounted.booked.hits⟩
  · intro lives
    refine ⟨⟨accounted.looked.looks lives, accounted.looked.misses lives⟩, exact_iff lives, ?_⟩
    intro dated
    apply (exact_iff lives).mpr
    apply unseen_of_whole
    -- A broken cache shows that no entry can be dated any more.
    rw [← accounted.broken, ← Bool.not_eq_true]
    intro broken
    rw [accounted.undated broken] at dated
    cases dated
  · have flights := accounted.flights
    rw [lands_count] at flights
    simp only [seen]
    omega

/-- A value that is to be kept for longer than the clock goes on breaks the cache, and the next
lookup goes to the vault without being counted as a miss. -/
theorem unseen_lookup_uncounted :
    ∃ settings, Settings.read (leastVariables "9223372036854775807s") = .ok settings ∧
      let calls := run settings.vault.cacheTtl 0 [.resolve "A", .fetch 0 (.ok ⟨"v"⟩), .resolve "A"]
      0 < settings.vault.cacheTtl.total ∧
        calls.tally.total "secret_cache_misses_total" = 1 ∧
        calls.history.countP Milestone.begins = 2 ∧
        calls.history.countP Milestone.reads = 2 := by
  have accepted :
      (Settings.read (leastVariables "9223372036854775807s")).toOption.map (·.vault.cacheTtl) =
        some ⟨9223372036854775807, 0⟩ := by decide +kernel
  obtain ⟨settings, accepted, overlong⟩ := exists_of_toOption accepted
  refine ⟨settings, accepted, ?_⟩
  rw [overlong]
  decide +kernel

end ResolveCalls
end SecretBroker
