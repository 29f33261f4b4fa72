import Mathlib.Data.List.Induction
import SecretBroker.Proofs.CacheEntries
import SecretBroker.Proofs.CacheRuns

/-!
A cache answers as its history says. The history keeps what was written and when; the cache keeps
expiry instants, a generation and what sweeps have left. The invariant relates the two by the
answers that a read would get from now on, so an entry may be gone as soon as it would not be
served any more.
-/

namespace SecretBroker

namespace CacheHistory

variable {history : CacheHistory} {record : CacheRecord} {name : String}

theorem lastWrite_clear (clears : record.act.isClear = true) :
    lastWrite? (record :: history) name = none := by
  simp [lastWrite?, clears]

theorem lastWrite_cons (plain : record.act.isClear = false) :
    lastWrite? (record :: history) name = (record.write? name).or (history.lastWrite? name) := by
  simp only [lastWrite?, List.takeWhile_cons, plain, Bool.not_false, ↓reduceIte,
    List.findSome?_cons]
  cases record.write? name <;> rfl

theorem unbroken_cons :
    Unbroken (record :: history) ↔ record.result ≠ .wrote .failed ∧ history.Unbroken := by
  simp [Unbroken]

/-- By the history, a name has a value that is still within its lifetime at a moment. -/
def Serves (history : CacheHistory) (ttl : Span) (name : String) (moment : Instant)
    (value : Secret) : Prop :=
  0 < ttl.total ∧ ∃ written, history.lastWrite? name = some (value, written) ∧
    moment < written + ttl.total

end CacheHistory

/-- A sleeper that is due by a whole millisecond has woken by then. -/
theorem Instant.wake_le (due now : Nat) (whole : ofMillis (millis now) = now) (order : due ≤ now) :
    wake due ≤ now := by
  have rounds : 1000000 * (now / 1000000) = now := whole
  change 1000000 * ((due + 999999) / 1000000) ≤ now
  omega

namespace TendedCache

theorem last_due_le (start now period : Nat) (ticked : (now - start) / period ≠ 0) :
    start + (now - start) / period * period ≤ now := by
  have elapsed := Nat.div_mul_le_self (now - start) period
  rcases Nat.lt_or_ge now start with early | begun
  · rw [Nat.sub_eq_zero_of_le (Nat.le_of_lt early), Nat.zero_div] at ticked
    exact absurd rfl ticked
  · omega

/-- A sweeper that catches up at a whole millisecond has swept at an instant that is past, if at
all. -/
theorem catch_up_cases (tended : TendedCache) (now : Instant)
    (whole : Instant.ofMillis now.millis = now) :
    (tended.sweepUpTo now).cache = tended.cache ∨
      ∃ swept, swept ≤ now ∧ (tended.sweepUpTo now).cache = tended.cache.sweep swept := by
  unfold sweepUpTo
  split
  · rename_i sweeper _
    unfold Sweeper.sweepUpTo
    split
    · exact Or.inl rfl
    · rename_i ticked
      have due := last_due_le sweeper.start now sweeper.period.total ticked
      exact Or.inr ⟨_, Instant.wake_le _ now whole due, rfl⟩
  · exact Or.inl rfl

end TendedCache

namespace CacheRun

variable {ttl : Span} {run : CacheRun} {act : CacheAct}

/-- Quiet acts leave the cache alone or sweep it. -/
theorem quiet_cases (run : CacheRun) (act : CacheAct) (quiet : act.isQuiet = true) :
    (run.step act).cache = run.cache ∨
      ∃ swept, swept ≤ run.now ∧ (run.step act).cache = run.cache.sweep swept := by
  cases act with
  | get name => exact Or.inl rfl
  | put name value => cases quiet
  | putIfCurrent name value generation => cases quiet
  | clear => cases quiet
  | cleanup => exact Or.inr ⟨run.now, Nat.le_refl _, rfl⟩
  | tick =>
      simp only [step, outcome, cache]
      split
      · exact Or.inr ⟨run.now, Nat.le_refl _, rfl⟩
      · exact Or.inl rfl
  | catchUp =>
      simp only [step, outcome, cache]
      split
      · rename_i whole
        exact run.tended.catch_up_cases run.now whole
      · exact Or.inl rfl
  | shutdown => exact Or.inl rfl
  | elapse span => exact Or.inl rfl

theorem quiet_writes_nothing (quiet : act.isQuiet = true) (name : String) (moment : Instant)
    (result : CacheResult) : CacheRecord.write? name ⟨moment, act, result⟩ = none := by
  cases act <;> first | rfl | cases quiet

theorem quiet_clears_nothing (quiet : act.isQuiet = true) : act.isClear = false := by
  cases act <;> first | rfl | cases quiet

/-- The cache is whole, in the generation that the history counts, and answers as it says. -/
structure Faithful (ttl : Span) (run : CacheRun) : Prop where
  ttl_eq : run.cache.ttl = ttl
  whole : run.cache.broken = false
  distinct : run.cache.Distinct
  generation : run.cache.generation = run.history.clears
  answers : ∀ name moment value, run.now ≤ moment →
    (run.cache.get name moment = some value ↔ run.history.Serves ttl name moment value)

theorem start_faithful (ttl : Span) (now : Instant) : Faithful ttl (start ttl now) where
  ttl_eq := rfl
  whole := rfl
  distinct := List.nodup_nil
  generation := rfl
  answers name moment value _ := by
    have bare : (start ttl now).cache.get name moment = none := by
      simp [start, cache, TendedCache.start, Cache.get, Cache.read, Cache.entry?, Cache.empty]
      split <;> rfl
    rw [bare]
    simp [start, CacheHistory.Serves, CacheHistory.lastWrite?]

theorem Faithful.enabled (faithful : Faithful ttl run) (life : 0 < ttl.total) :
    run.cache.isEnabled = true := by
  rw [Cache.enabled_iff, faithful.ttl_eq]
  exact life

theorem now_le_step (run : CacheRun) (act : CacheAct) : run.now ≤ (run.step act).now := by
  cases act <;> simp [step]

/-- An act that writes and clears nothing may change the entries as long as no answer changes. -/
theorem Faithful.unwritten (faithful : Faithful ttl run) (plain : act.isClear = false)
    (unwritten : ∀ name, CacheRecord.write? name ⟨run.now, act, run.result act⟩ = none)
    (sameTtl : (run.step act).cache.ttl = run.cache.ttl)
    (sameBroken : (run.step act).cache.broken = run.cache.broken)
    (sameGeneration : (run.step act).cache.generation = run.cache.generation)
    (distinct : (run.step act).cache.Distinct)
    (sameAnswers : ∀ name moment, run.now ≤ moment →
      (run.step act).cache.get name moment = run.cache.get name moment) :
    Faithful ttl (run.step act) where
  ttl_eq := sameTtl.trans faithful.ttl_eq
  whole := sameBroken.trans faithful.whole
  distinct := distinct
  generation := by
    rw [sameGeneration, faithful.generation]
    simp [step, CacheHistory.clears, plain]
  answers name moment value later := by
    have future := Nat.le_trans (now_le_step run act) later
    have sameWrites : (run.step act).history.lastWrite? name = run.history.lastWrite? name := by
      simp only [step]
      rw [CacheHistory.lastWrite_cons plain, unwritten name, Option.none_or]
    rw [sameAnswers name moment future, faithful.answers name moment value future]
    simp only [CacheHistory.Serves, sameWrites]

theorem Faithful.written (faithful : Faithful ttl run) (name : String) (value : Secret)
    (life : 0 < ttl.total) (plain : act.isClear = false)
    (written : ∀ other, CacheRecord.write? other ⟨run.now, act, run.result act⟩ =
      if name = other then some (value, run.now) else none)
    (stored : (run.step act).cache = run.cache.insert name ⟨value, run.now + ttl.total⟩) :
    Faithful ttl (run.step act) where
  ttl_eq := by
    rw [stored]
    exact faithful.ttl_eq
  whole := by
    rw [stored]
    exact faithful.whole
  distinct := by
    rw [stored]
    exact Cache.insert_distinct _ _ _ faithful.distinct
  generation := by
    rw [stored]
    have same := faithful.generation
    simpa [step, CacheHistory.clears, plain, Cache.insert] using same
  answers other moment found later := by
    have future := Nat.le_trans (now_le_step run act) later
    have newest : (run.step act).history.lastWrite? other =
        (if name = other then some (value, run.now) else none).or
          (run.history.lastWrite? other) := by
      simp only [step]
      rw [CacheHistory.lastWrite_cons plain, written other]
    rw [stored]
    by_cases same : other = name
    · subst same
      rw [Cache.get_insert_self _ _ _ _ (faithful.enabled life) faithful.whole]
      rw [if_pos rfl, Option.some_or] at newest
      simp only [CacheHistory.Serves, newest, life, true_and]
      constructor
      · rintro ⟨rfl, early⟩
        exact ⟨run.now, rfl, early⟩
      · rintro ⟨written, again, early⟩
        cases again
        exact ⟨rfl, early⟩
    · have differs : name ≠ other := fun again => same again.symm
      rw [Cache.get_insert_other _ _ _ _ _ same, faithful.answers other moment found future]
      simp [CacheHistory.Serves, newest, differs]

theorem Faithful.cleared (faithful : Faithful ttl run) : Faithful ttl (run.step .clear) := by
  have emptied : (run.step .clear).cache =
      { run.cache with entries := [], generation := run.cache.generation + 1 } := by
    rcases run.cache.clear_cases with ⟨broken, _⟩ | ⟨_, cleared⟩
    · rw [faithful.whole] at broken
      cases broken
    · change run.cache.clear.1 = _
      rw [cleared]
  constructor
  · rw [emptied]
    exact faithful.ttl_eq
  · rw [emptied]
    exact faithful.whole
  · rw [emptied]
    exact List.nodup_nil
  · rw [emptied]
    have same := faithful.generation
    simpa [step, CacheHistory.clears, CacheAct.isClear] using same
  · intro name moment value _
    have bare : (run.step .clear).cache.get name moment = none := by
      rw [emptied]
      simp only [Cache.get, Cache.read, Cache.entry?, List.find?_nil, Option.map_none]
      split <;> rfl
    have unwritten : (run.step .clear).history.lastWrite? name = none :=
      CacheHistory.lastWrite_clear rfl
    simp [bare, CacheHistory.Serves, unwritten]

theorem Faithful.quiet_answers (faithful : Faithful ttl run) (quiet : act.isQuiet = true)
    (name : String) (moment : Instant) (later : run.now ≤ moment) :
    (run.step act).cache.get name moment = run.cache.get name moment := by
  rcases run.quiet_cases act quiet with same | ⟨swept, past, same⟩
  · rw [same]
  · rw [same]
    exact Cache.get_sweep _ _ _ _ faithful.distinct (Nat.le_trans past later)

theorem Faithful.quiet (faithful : Faithful ttl run) (quiet : act.isQuiet = true) :
    Faithful ttl (run.step act) := by
  have unwritten := fun name => quiet_writes_nothing quiet name run.now (run.result act)
  have plain := quiet_clears_nothing quiet
  have kept : (run.step act).cache.ttl = run.cache.ttl ∧
      (run.step act).cache.broken = run.cache.broken ∧
      (run.step act).cache.generation = run.cache.generation ∧ (run.step act).cache.Distinct := by
    rcases run.quiet_cases act quiet with same | ⟨swept, _, same⟩
    · rw [same]
      exact ⟨rfl, rfl, rfl, faithful.distinct⟩
    · rw [same]
      exact ⟨Cache.sweep_ttl _ _, Cache.sweep_broken _ _, Cache.sweep_generation _ _,
        Cache.sweep_distinct _ _ faithful.distinct⟩
  obtain ⟨sameTtl, sameBroken, sameGeneration, distinct⟩ := kept
  exact faithful.unwritten plain unwritten sameTtl sameBroken sameGeneration distinct
    fun name moment later => faithful.quiet_answers quiet name moment later

/-- A write is skipped and changes nothing, or stores what it was given. -/
theorem Faithful.put_cases (faithful : Faithful ttl run) (name : String) (value : Secret)
    (succeeds : (run.cache.put name value run.now).2 ≠ .failed) :
    (ttl.total = 0 ∧ run.cache.put name value run.now = (run.cache, .skipped)) ∨
      (0 < ttl.total ∧ run.cache.put name value run.now =
        (run.cache.insert name ⟨value, run.now + ttl.total⟩, .stored)) := by
  rw [Cache.put_whole _ _ _ _ faithful.whole, faithful.ttl_eq] at succeeds ⊢
  by_cases life : 0 < ttl.total
  · rw [if_pos life] at succeeds ⊢
    rcases run.cache.store_cases name value run.now with stored | failed
    · rw [stored, faithful.ttl_eq]
      exact Or.inr ⟨life, rfl⟩
    · rw [failed] at succeeds
      exact absurd rfl succeeds
  · rw [if_neg life]
    exact Or.inl ⟨by omega, rfl⟩

theorem Faithful.skipped (faithful : Faithful ttl run) (plain : act.isClear = false)
    (skips : run.outcome act = (run.tended, .wrote .skipped)) : Faithful ttl (run.step act) := by
  have same : (run.step act).cache = run.cache := by
    simp only [step, cache, skips]
  have unwritten : ∀ name, CacheRecord.write? name ⟨run.now, act, run.result act⟩ = none := by
    intro name
    simp only [result, skips]
    cases act <;> rfl
  apply faithful.unwritten plain unwritten
  all_goals rw [same]
  · exact faithful.distinct
  · exact fun _ _ _ => rfl

theorem Faithful.step (faithful : Faithful ttl run)
    (succeeds : run.result act ≠ .wrote .failed) : Faithful ttl (run.step act) := by
  cases act with
  | put name value =>
      have unfailed : (run.cache.put name value run.now).2 ≠ .failed := fun failed =>
        succeeds (congrArg CacheResult.wrote failed)
      rcases faithful.put_cases name value unfailed with ⟨_, skips⟩ | ⟨life, stores⟩
      · apply faithful.skipped rfl
        simp only [outcome, skips]
        rfl
      · apply faithful.written name value life rfl
        · intro other
          simp [result, outcome, stores, CacheRecord.write?]
        · exact congrArg Prod.fst stores
  | putIfCurrent name value generation =>
      have same := Cache.putIfCurrent_eq run.cache name value generation run.now
      by_cases current : run.cache.generation = generation
      · rw [if_pos current] at same
        have unfailed : (run.cache.put name value run.now).2 ≠ .failed := fun failed =>
          succeeds (congrArg CacheResult.wrote ((congrArg Prod.snd same).trans failed))
        rcases faithful.put_cases name value unfailed with ⟨_, skips⟩ | ⟨life, stores⟩
        · apply faithful.skipped rfl
          simp only [outcome, same, skips]
          rfl
        · apply faithful.written name value life rfl
          · intro other
            simp [result, outcome, same, stores, CacheRecord.write?]
          · exact congrArg Prod.fst (same.trans stores)
      · rw [if_neg current] at same
        apply faithful.skipped rfl
        simp only [outcome, same]
        rfl
  | clear => exact faithful.cleared
  | get name => exact faithful.quiet rfl
  | cleanup => exact faithful.quiet rfl
  | tick => exact faithful.quiet rfl
  | catchUp => exact faithful.quiet rfl
  | shutdown => exact faithful.quiet rfl
  | elapse span => exact faithful.quiet rfl

theorem run_faithful (ttl : Span) (now : Instant) (acts : List CacheAct)
    (unbroken : (CacheRun.run ttl now acts).history.Unbroken) :
    Faithful ttl (CacheRun.run ttl now acts) := by
  induction acts using List.reverseRecOn with
  | nil => exact start_faithful ttl now
  | append_singleton acts act ih =>
      have last : CacheRun.run ttl now (acts ++ [act]) = (CacheRun.run ttl now acts).step act := by
        simp [CacheRun.run]
      rw [last] at unbroken ⊢
      obtain ⟨succeeds, before⟩ := CacheHistory.unbroken_cons.mp unbroken
      exact (ih before).step succeeds

theorem Faithful.put_stored (faithful : Faithful ttl run) (name : String) (value : Secret)
    (reached : (Instant.after run.now ttl).isSome = true) :
    (run.cache.put name value run.now).2 = .stored ↔ 0 < ttl.total := by
  rw [Cache.put_whole _ _ _ _ faithful.whole, faithful.ttl_eq]
  by_cases life : 0 < ttl.total
  · rw [if_pos life, Cache.store_reached _ _ _ _ (by rw [faithful.ttl_eq]; exact reached)]
    exact iff_of_true rfl life
  · rw [if_neg life]
    exact iff_of_false (fun stored => by cases stored) life

theorem Faithful.put_if_current_stored (faithful : Faithful ttl run) (name : String)
    (value : Secret) (generation : Nat) (reached : (Instant.after run.now ttl).isSome = true) :
    (run.cache.putIfCurrent name value generation run.now).2 = .stored ↔
      0 < ttl.total ∧ generation = run.history.clears := by
  rw [Cache.putIfCurrent_eq, faithful.generation]
  by_cases current : run.history.clears = generation
  · rw [if_pos current, faithful.put_stored name value reached]
    exact (and_iff_left current.symm).symm
  · rw [if_neg current]
    exact iff_of_false (fun stored => by cases stored) fun both => current both.2.symm

theorem Faithful.other_answers (faithful : Faithful ttl run) (name : String)
    (writes : act.target? = some name) (reached : (Instant.after run.now ttl).isSome = true)
    (other : String) (differs : other ≠ name) (moment : Instant) :
    (run.step act).cache.get other moment = run.cache.get other moment := by
  -- Every write puts its value, or does nothing where its generation is over.
  have puts : ∀ value, (run.cache.put name value run.now).1.get other moment =
      run.cache.get other moment := by
    intro value
    rw [Cache.put_whole _ _ _ _ faithful.whole]
    split
    · rw [Cache.store_reached _ _ _ _ (by rw [faithful.ttl_eq]; exact reached)]
      exact Cache.get_insert_other _ _ _ _ _ differs
    · rfl
  cases act with
  | put written value =>
      obtain rfl := Option.some.inj writes
      exact puts value
  | putIfCurrent written value generation =>
      obtain rfl := Option.some.inj writes
      change (run.cache.putIfCurrent written value generation run.now).1.get other moment = _
      rw [Cache.putIfCurrent_eq]
      split
      · exact puts value
      · rfl
  | get | clear | cleanup | tick | catchUp | shutdown | elapse => cases writes

/-- In every run in which each write finds the instant when its entry expires, and whatever it is
that the cache is asked next: a read answers with the value that was last written under the name
since the last clear if that was less than a lifetime ago, and with nothing otherwise; a write
succeeds where there is a lifetime, and a conditional one if its generation is the number of
clears besides; reads, sweeps, cleanups, the sweeper's end and time change no answer, now or later;
a write changes none to another name; and a clear tells the number of entries, each of a name of
its own, and leaves none. -/
theorem cache_refines_history (ttl : Span) (now : Instant) (acts : List CacheAct)
    (unbroken : (CacheRun.run ttl now acts).history.Unbroken) :
    let state := CacheRun.run ttl now acts
    (∀ name, ∃ answer, state.result (.get name) = .found answer ∧
      ∀ value, answer = some value ↔ state.history.Serves ttl name state.now value) ∧
    ((Instant.after state.now ttl).isSome = true → ∀ name value,
      (state.result (.put name value) = .wrote .stored ↔ 0 < ttl.total) ∧
      ∀ generation, state.result (.putIfCurrent name value generation) = .wrote .stored ↔
        0 < ttl.total ∧ generation = state.history.clears) ∧
    (∀ act, act.isQuiet = true → ∀ name moment, state.now ≤ moment →
      (state.step act).cache.get name moment = state.cache.get name moment) ∧
    ((Instant.after state.now ttl).isSome = true → ∀ act name, act.target? = some name →
      ∀ other, other ≠ name → ∀ moment,
        (state.step act).cache.get other moment = state.cache.get other moment) ∧
    state.result .clear = .dropped state.cache.size ∧
    (state.cache.size = state.cache.entries.length ∧ (state.cache.entries.map Prod.fst).Nodup) ∧
    (state.step .clear).cache.entries = [] := by
  intro state
  have faithful : Faithful ttl state := run_faithful ttl now acts unbroken
  have cleared : state.cache.clear = ({ state.cache with
      entries := [], generation := state.cache.generation + 1 }, state.cache.size) := by
    simp [Cache.clear, faithful.whole]
  refine ⟨?_, ?_, ?_, ?_, ?_, ⟨?_, faithful.distinct⟩, ?_⟩
  · intro name
    exact ⟨_, rfl, fun value => faithful.answers name state.now value (Nat.le_refl _)⟩
  · intro reached name value
    constructor
    · rw [← faithful.put_stored name value reached]
      exact ⟨CacheResult.wrote.inj, congrArg CacheResult.wrote⟩
    · intro generation
      rw [← faithful.put_if_current_stored name value generation reached]
      exact ⟨CacheResult.wrote.inj, congrArg CacheResult.wrote⟩
  · exact fun act quiet name moment later => faithful.quiet_answers quiet name moment later
  · exact fun reached act name writes other differs moment =>
      faithful.other_answers name writes reached other differs moment
  · exact congrArg CacheResult.dropped (congrArg Prod.snd cleared)
  · simp [Cache.size, faithful.whole]
  · exact congrArg Cache.entries (congrArg Prod.fst cleared)

/-- A lookup from before the clear stores nothing, the one after it does, and its value is served
through a sweep up to the end of its lifetime. -/
theorem cache_serves_current_generation :
    let state := CacheRun.run (.ofSeconds 1) 0 [.put "A" ⟨"old"⟩, .clear,
      .putIfCurrent "A" ⟨"late"⟩ 0, .putIfCurrent "A" ⟨"new"⟩ 1, .elapse 999999999, .tick]
    state.history.Unbroken ∧ state.result (.get "A") = .found (some ⟨"new"⟩) := by
  intro state
  have unbroken : state.history.Unbroken := by decide +kernel
  obtain ⟨answer, found, serves⟩ := (cache_refines_history _ _ _ unbroken).1 "A"
  have served : answer = some ⟨"new"⟩ := (serves ⟨"new"⟩).mpr ⟨by decide, 0, rfl, by decide⟩
  exact ⟨unbroken, served ▸ found⟩

end CacheRun
end SecretBroker
