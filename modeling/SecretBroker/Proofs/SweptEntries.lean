import Mathlib.Data.List.Dedup
import Mathlib.Data.List.Perm.Subperm
import Mathlib.Order.Nat
import SecretBroker.Proofs.CacheHistory

/-!
How long a cache keeps what it holds. A tick of the sweeper leaves nothing that has expired, so an
entry is gone with the first tick after its expiry, which is less than two lifetimes after it was
written. What is held is therefore bounded by what was written lately, and nothing is taken away
before its time.
-/

namespace SecretBroker

namespace Cache

/-- The entries that the cache gives access to: those of a broken one are out of reach. -/
def held (cache : Cache) : List (String × Cached) := if cache.broken then [] else cache.entries

variable {cache : Cache} {entry : String × Cached} {now : Instant}

theorem mem_held : entry ∈ cache.held ↔ cache.broken = false ∧ entry ∈ cache.entries := by
  unfold held
  cases cache.broken <;> simp

theorem mem_held_sweep :
    entry ∈ (cache.sweep now).held ↔ entry ∈ cache.held ∧ now < entry.2.expiry := by
  rw [mem_held, mem_held, sweep_broken]
  cases broken : cache.broken with
  | true => simp
  | false => simp [sweep, broken, Cached.isExpired]

theorem size_sweep_le (cache : Cache) (now : Instant) : (cache.sweep now).size ≤ cache.size := by
  unfold sweep
  split
  · exact Nat.le_refl _
  · rename_i whole
    simp only [size, whole, Bool.false_eq_true, ↓reduceIte]
    exact List.length_filter_le _ _

/-- A write that leaves the cache whole found it whole and has not failed. -/
theorem put_leaves_whole (name : String) (value : Secret)
    (whole : (cache.put name value now).1.broken = false) :
    cache.broken = false ∧ (cache.put name value now).2 ≠ .failed := by
  by_cases idle : (!cache.isEnabled || cache.broken) = true
  · rw [put, if_pos idle] at whole ⊢
    exact ⟨whole, by simp⟩
  · rw [put, if_neg idle] at whole ⊢
    rcases cache.store_cases name value now with stored | failed
    · rw [stored] at whole ⊢
      exact ⟨whole, by simp⟩
    · rw [failed] at whole
      cases whole

end Cache

theorem CacheRecord.write_eq {record : CacheRecord} {name : String} {value : Secret}
    {written : Instant} (wrote : record.write? name = some (value, written)) :
    record.result = .wrote .stored ∧ record.act.target? = some name ∧ record.moment = written := by
  unfold write? at wrote
  split at wrote
  · rename_i act result
    simp_all [CacheAct.target?]
  · rename_i act result
    simp_all [CacheAct.target?]
  · cases wrote

namespace CacheHistory

/-- The names written since the last clear and less than two lifetimes before a moment. -/
def recentNames (history : CacheHistory) (ttl : Span) (moment : Instant) : List String :=
  (history.takeWhile fun record => !record.act.isClear).filterMap fun record =>
    if record.result = .wrote .stored ∧ moment < record.moment + 2 * ttl.total then
      record.act.target?
    else none

theorem recent_of_lastWrite {history : CacheHistory} {name : String} {value : Secret}
    {written moment : Instant} {ttl : Span}
    (last : history.lastWrite? name = some (value, written))
    (recent : moment < written + 2 * ttl.total) : name ∈ history.recentNames ttl moment := by
  obtain ⟨record, member, wrote⟩ := List.exists_of_findSome?_eq_some last
  obtain ⟨stored, named, rfl⟩ := record.write_eq wrote
  exact List.mem_filterMap.mpr ⟨record, member, by rw [if_pos ⟨stored, recent⟩, named]⟩

end CacheHistory

namespace CacheRun

variable {ttl : Span} {start : Instant} {run : CacheRun} {act : CacheAct}

theorem run_snoc (ttl : Span) (start : Instant) (acts : List CacheAct) (act : CacheAct) :
    CacheRun.run ttl start (acts ++ [act]) = (CacheRun.run ttl start acts).step act := by
  simp [CacheRun.run]

/-- An act that leaves the cache whole found it whole and has not failed. -/
theorem step_leaves_whole (whole : (run.step act).cache.broken = false) :
    run.cache.broken = false ∧ run.result act ≠ .wrote .failed := by
  by_cases quiet : act.isQuiet = true
  · refine ⟨?_, fun failed => by cases act <;> cases quiet <;> cases failed⟩
    rcases run.quiet_cases act quiet with same | ⟨swept, _, same⟩
    · rwa [same] at whole
    · rwa [same, Cache.sweep_broken] at whole
  · cases act with
    | put name value =>
        obtain ⟨before, unfailed⟩ := Cache.put_leaves_whole name value whole
        exact ⟨before, fun failed => unfailed (CacheResult.wrote.inj failed)⟩
    | putIfCurrent name value generation =>
        have same := run.cache.putIfCurrent_eq name value generation run.now
        change (run.cache.putIfCurrent name value generation run.now).1.broken = false at whole
        change _ ∧ CacheResult.wrote (run.cache.putIfCurrent name value generation run.now).2 ≠ _
        rw [same] at whole ⊢
        split at whole
        · rename_i current
          obtain ⟨before, unfailed⟩ := Cache.put_leaves_whole name value whole
          rw [if_pos current]
          exact ⟨before, fun failed => unfailed (CacheResult.wrote.inj failed)⟩
        · rename_i outdated
          rw [if_neg outdated]
          exact ⟨whole, nofun⟩
    | clear => exact ⟨(run.cache.clear_broken).symm.trans whole, nofun⟩
    | get | cleanup | tick | catchUp | shutdown | elapse => exact absurd rfl quiet

/-- What an act does to the entries: it takes some away and writes nothing, or writes one that lasts
for a lifetime from now, or takes all away in a clear. -/
inductive Effect (ttl : Span) (run : CacheRun) (act : CacheAct) : Prop where
  | fewer (plain : act.isClear = false)
      (unwritten : ∀ name, CacheRecord.write? name ⟨run.now, act, run.result act⟩ = none)
      (kept : ∀ entry ∈ (run.step act).cache.entries, entry ∈ run.cache.entries)
  | written (name : String) (value : Secret) (plain : act.isClear = false)
      (busy : act.isQuiet = false)
      (wrote : ∀ other, CacheRecord.write? other ⟨run.now, act, run.result act⟩ =
        if name = other then some (value, run.now) else none)
      (stored : (run.step act).cache = run.cache.insert name ⟨value, run.now + ttl.total⟩)
  | cleared (clears : act = .clear) (emptied : (run.step act).cache.entries = [])

theorem Effect.skipped (plain : act.isClear = false)
    (skips : run.outcome act = (run.tended, .wrote .skipped)) : Effect ttl run act := by
  refine .fewer plain ?_ ?_
  · intro name
    rw [result, skips]
    cases act <;> rfl
  · intro entry kept
    simpa only [step, cache, skips] using kept

theorem Faithful.put_effect (faithful : Faithful ttl run) (name : String) (value : Secret)
    (plain : act.isClear = false) (busy : act.isQuiet = false)
    (puts : run.outcome act = ({ run.tended with cache := (run.cache.put name value run.now).1 },
      .wrote (run.cache.put name value run.now).2))
    (writes : ∀ other, CacheRecord.write? other ⟨run.now, act, .wrote .stored⟩ =
      if name = other then some (value, run.now) else none)
    (succeeds : run.result act ≠ .wrote .failed) : Effect ttl run act := by
  have unfailed : (run.cache.put name value run.now).2 ≠ .failed := by
    rw [result, puts] at succeeds
    exact fun failed => succeeds (congrArg CacheResult.wrote failed)
  rcases faithful.put_cases name value unfailed with ⟨_, skips⟩ | ⟨_, stores⟩
  · rw [skips] at puts
    exact .skipped plain puts
  · rw [stores] at puts
    refine .written name value plain busy ?_ ?_
    · rw [result, puts]
      exact writes
    · exact congrArg (·.1.cache) puts

theorem Faithful.effect (faithful : Faithful ttl run)
    (succeeds : run.result act ≠ .wrote .failed) : Effect ttl run act := by
  by_cases quiet : act.isQuiet = true
  · refine .fewer (quiet_clears_nothing quiet) (fun name => quiet_writes_nothing quiet name _ _) ?_
    intro entry kept
    rcases run.quiet_cases act quiet with same | ⟨swept, _, same⟩
    · rwa [same] at kept
    · rw [same] at kept
      exact Cache.mem_sweep _ _ _ kept
  · cases act with
    | put name value => exact faithful.put_effect name value rfl rfl rfl (fun _ => rfl) succeeds
    | putIfCurrent name value generation =>
        have same := run.cache.putIfCurrent_eq name value generation run.now
        by_cases current : run.cache.generation = generation
        · rw [if_pos current] at same
          refine faithful.put_effect name value rfl rfl ?_ (fun _ => rfl) succeeds
          simp only [outcome, same]
        · rw [if_neg current] at same
          refine .skipped rfl ?_
          simp only [outcome, same]
          rfl
    | clear =>
        refine .cleared rfl ?_
        rcases run.cache.clear_cases with ⟨broken, _⟩ | ⟨_, cleared⟩
        · cases faithful.whole.symm.trans broken
        · exact congrArg (·.1.entries) cleared
    | get | cleanup | tick | catchUp | shutdown | elapse => exact absurd rfl quiet

end CacheRun

namespace Sweeper

/-- A record of a tick of a number: its timer went off when it was due, or the sweeper caught up
later, at a whole millisecond. -/
def Ticked (sweeper : Sweeper) (tick : Nat) (record : CacheRecord) : Prop :=
  (record.act = .tick ∧ record.moment = sweeper.due tick) ∨
    (record.act = .catchUp ∧ Instant.ofMillis record.moment.millis = record.moment ∧
      sweeper.due tick ≤ record.moment)

instance (sweeper : Sweeper) (tick : Nat) (record : CacheRecord) :
    Decidable (sweeper.Ticked tick record) := inferInstanceAs (Decidable (_ ∨ _))

theorem Ticked.due_le {sweeper : Sweeper} {tick : Nat} {record : CacheRecord}
    (ticked : sweeper.Ticked tick record) : sweeper.due tick ≤ record.moment := by
  rcases ticked with ⟨_, punctual⟩ | ⟨_, _, past⟩
  · exact punctual.ge
  · exact past

variable {sweeper : Sweeper} {now : Instant}

theorem due_mono {earlier later : Nat} (order : earlier ≤ later) :
    sweeper.due earlier ≤ sweeper.due later :=
  Nat.add_le_add_left (Nat.mul_le_mul_right _ order) _

theorem le_ticks (life : 0 < sweeper.period.total) {tick : Nat} (past : sweeper.due tick ≤ now) :
    tick ≤ sweeper.ticks now :=
  (Nat.le_div_iff_mul_le life).mpr (Nat.le_sub_of_add_le' past)

theorem due_ticks_le (begun : sweeper.start ≤ now) : sweeper.due (sweeper.ticks now) ≤ now :=
  Nat.add_le_of_le_sub' begun (Nat.div_mul_le_self _ _)

/-- The tick after the last one is due within a lifetime. -/
theorem lt_next_due (life : 0 < sweeper.period.total) (begun : sweeper.start ≤ now) :
    now < sweeper.due (sweeper.ticks now) + sweeper.period.total := by
  have next : now - sweeper.start < _ := Nat.lt_div_mul_add life
  rw [due, Nat.add_assoc]
  exact (Nat.sub_lt_iff_lt_add' begun).mp next

end Sweeper

theorem Instant.le_wake (due : Nat) : due ≤ wake due := by
  change due ≤ 1000000 * ((due + 999999) / 1000000)
  omega

namespace CacheRun

variable {ttl : Span} {start : Instant} {run : CacheRun} {act : CacheAct} {sweeper : Sweeper}

/-- Every tick that is due has been done. -/
def Punctual (run : CacheRun) (sweeper : Sweeper) : Prop :=
  ∀ tick, 0 < tick → sweeper.due tick ≤ run.now → ∃ record ∈ run.history, sweeper.Ticked tick record

theorem start_sweeper (started : (CacheRun.start ttl start).tended.sweeper = some sweeper) :
    sweeper = ⟨start, ttl⟩ ∧ 0 < ttl.total := by
  change Sweeper.start? (.empty ttl) start = some sweeper at started
  unfold Sweeper.start? at started
  split at started
  · rename_i startable
    have enabled := (Bool.and_eq_true_iff.mp startable).1
    exact ⟨(Option.some.inj started).symm, (Cache.empty ttl).enabled_iff.mp enabled⟩
  · cases started

/-- A sweeper that runs has run before. -/
theorem sweeper_before (runs : (run.step act).tended.sweeper = some sweeper) :
    run.tended.sweeper = some sweeper := by
  cases act with
  | shutdown => cases runs
  | tick =>
      change (if run.tended.sweeper.isSome then { run.tended with cache := run.cache.sweep run.now }
        else run.tended).sweeper = some sweeper at runs
      split at runs <;> exact runs
  | catchUp =>
      change (if Instant.ofMillis run.now.millis = run.now then run.tended.sweepUpTo run.now
        else run.tended).sweeper = some sweeper at runs
      unfold TendedCache.sweepUpTo at runs
      repeat' split at runs
      all_goals exact runs
  | get | put | putIfCurrent | clear | cleanup | elapse => exact runs

theorem tick_sweeps (runs : run.tended.sweeper = some sweeper) :
    (run.step .tick).cache = run.cache.sweep run.now := by
  simp [step, outcome, cache, runs]

/-- Catching up drops all that had expired by any of the ticks that are due. -/
theorem catch_up_sweeps (runs : run.tended.sweeper = some sweeper)
    (life : 0 < sweeper.period.total)
    (whole : Instant.ofMillis run.now.millis = run.now) {tick : Nat} (positive : 0 < tick)
    (past : sweeper.due tick ≤ run.now) :
    ∃ swept, sweeper.due tick ≤ swept ∧ (run.step .catchUp).cache = run.cache.sweep swept := by
  have counted := Sweeper.le_ticks life past
  have some_tick : sweeper.ticks run.now ≠ 0 := (positive.trans_le counted).ne'
  refine ⟨Instant.wake (sweeper.due (sweeper.ticks run.now)), ?_, ?_⟩
  · exact (Sweeper.due_mono counted).trans (Instant.le_wake _)
  · simp [step, outcome, cache, whole, TendedCache.sweepUpTo, runs, Sweeper.sweepUpTo, some_tick]

/-- What is held was written no longer ago than the history says, and no tick since has found it
expired. -/
structure Recorded (sweeper : Sweeper) (run : CacheRun) : Prop where
  life : 0 < sweeper.period.total
  faithful : Faithful sweeper.period run
  begun : sweeper.start ≤ run.now
  past : ∀ record ∈ run.history, record.moment ≤ run.now
  dated : ∀ name held, (name, held) ∈ run.cache.entries → ∃ written,
    run.history.lastWrite? name = some (held.value, written) ∧
      held.expiry = written + sweeper.period.total ∧ sweeper.start ≤ written
  swept : ∀ tick, 0 < tick → ∀ record ∈ run.history, sweeper.Ticked tick record →
    ∀ entry ∈ run.cache.entries, sweeper.due tick < entry.2.expiry

theorem start_recorded (life : 0 < ttl.total) :
    (CacheRun.start ttl start).Recorded ⟨start, ttl⟩ where
  life := life
  faithful := start_faithful ttl start
  begun := Nat.le_refl start
  past := nofun
  dated := nofun
  swept _ _ := nofun

theorem lastWrite_step (plain : act.isClear = false) (name : String) :
    (run.step act).history.lastWrite? name =
      (CacheRecord.write? name ⟨run.now, act, run.result act⟩).or (run.history.lastWrite? name) :=
  CacheHistory.lastWrite_cons plain

theorem Recorded.fresh_tick (recorded : run.Recorded sweeper)
    (runs : run.tended.sweeper = some sweeper) {tick : Nat} (positive : 0 < tick)
    (ticked : sweeper.Ticked tick ⟨run.now, act, run.result act⟩) :
    ∀ entry ∈ (run.step act).cache.entries, sweeper.due tick < entry.2.expiry := by
  have kept : ∀ swept, sweeper.due tick ≤ swept → ∀ entry ∈ (run.cache.sweep swept).entries,
      sweeper.due tick < entry.2.expiry := by
    intro swept order entry member
    simp only [Cache.sweep, recorded.faithful.whole, Bool.false_eq_true, ↓reduceIte,
      List.mem_filter, Cached.isExpired, Bool.not_eq_true', decide_eq_false_iff_not, not_le]
      at member
    exact order.trans_lt member.2
  rcases ticked with ⟨rfl, punctual⟩ | ⟨rfl, whole, past⟩
  · rw [tick_sweeps runs]
    exact kept run.now punctual.ge
  · obtain ⟨swept, order, same⟩ := catch_up_sweeps runs recorded.life whole positive past
    rw [same]
    exact kept swept order

theorem Recorded.step (recorded : run.Recorded sweeper) (runs : run.tended.sweeper = some sweeper)
    (succeeds : run.result act ≠ .wrote .failed) : (run.step act).Recorded sweeper := by
  have later := now_le_step run act
  have effect := recorded.faithful.effect succeeds
  refine ⟨recorded.life, recorded.faithful.step succeeds, recorded.begun.trans later, ?_, ?_, ?_⟩
  · intro record member
    rcases List.mem_cons.mp member with rfl | old
    · exact later
    · exact (recorded.past record old).trans later
  · intro name held member
    cases effect with
    | fewer plain unwritten kept =>
        obtain ⟨written, last, expires, begun⟩ := recorded.dated name held (kept _ member)
        refine ⟨written, ?_, expires, begun⟩
        rw [lastWrite_step plain, unwritten, Option.none_or, last]
    | written target value plain busy wrote stored =>
        rw [stored, Cache.mem_insert] at member
        rcases member with ⟨rfl, rfl⟩ | ⟨differs, old⟩
        · refine ⟨run.now, ?_, rfl, recorded.begun⟩
          rw [lastWrite_step plain, wrote, if_pos rfl, Option.some_or]
        · obtain ⟨written, last, expires, begun⟩ := recorded.dated name held old
          refine ⟨written, ?_, expires, begun⟩
          rw [lastWrite_step plain, wrote, if_neg differs.symm, Option.none_or, last]
    | cleared _ emptied =>
        rw [emptied] at member
        cases member
  · intro tick positive record member ticked entry held
    rcases List.mem_cons.mp member with rfl | old
    · exact recorded.fresh_tick runs positive ticked entry held
    · cases effect with
      | fewer _ _ kept => exact recorded.swept tick positive record old ticked entry (kept _ held)
      | written target value _ _ _ stored =>
          rw [stored, Cache.mem_insert] at held
          rcases held with ⟨_, same⟩ | ⟨_, earlier⟩
          · -- What is written now expires after every tick there has been.
            rw [same]
            have reached := ticked.due_le.trans (recorded.past record old)
            exact reached.trans_lt (Nat.lt_add_of_pos_right recorded.life)
          · exact recorded.swept tick positive record old ticked entry earlier
      | cleared _ emptied =>
          rw [emptied] at held
          cases held

theorem run_sweeper (ttl : Span) (start : Instant) (acts : List CacheAct)
    (runs : (CacheRun.run ttl start acts).tended.sweeper = some sweeper) :
    sweeper = ⟨start, ttl⟩ ∧ 0 < ttl.total := by
  induction acts using List.reverseRecOn with
  | nil => exact start_sweeper runs
  | append_singleton acts act ih =>
      rw [run_snoc] at runs
      exact ih (sweeper_before runs)

theorem run_recorded (ttl : Span) (start : Instant) (acts : List CacheAct)
    (runs : (CacheRun.run ttl start acts).tended.sweeper = some ⟨start, ttl⟩)
    (whole : (CacheRun.run ttl start acts).cache.broken = false) :
    (CacheRun.run ttl start acts).Recorded ⟨start, ttl⟩ := by
  induction acts using List.reverseRecOn with
  | nil => exact start_recorded (start_sweeper runs).2
  | append_singleton acts act ih =>
      rw [run_snoc] at runs whole ⊢
      obtain ⟨wholeBefore, succeeds⟩ := step_leaves_whole whole
      have ran := sweeper_before runs
      exact (ih ran wholeBefore).step ran succeeds

/-- With the ticks done, what is held was written within two lifetimes. -/
theorem Recorded.recent (recorded : run.Recorded sweeper) (punctual : run.Punctual sweeper)
    {name : String} {held : Cached} (member : (name, held) ∈ run.cache.entries)
    {written : Instant} (expires : held.expiry = written + sweeper.period.total)
    (begun : sweeper.start ≤ written) : run.now < written + 2 * sweeper.period.total := by
  have next := Sweeper.lt_next_due recorded.life recorded.begun
  have reached : sweeper.due (sweeper.ticks run.now) ≤ written + sweeper.period.total := by
    rcases Nat.eq_zero_or_pos (sweeper.ticks run.now) with none | positive
    · -- Nothing is older than the sweeper.
      rw [none, Sweeper.due, Nat.zero_mul]
      exact begun.trans (Nat.le_add_right _ _)
    · obtain ⟨record, happened, ticked⟩ :=
        punctual _ positive (Sweeper.due_ticks_le recorded.begun)
      rw [← expires]
      exact (recorded.swept _ positive record happened ticked _ member).le
  rw [Nat.two_mul, ← Nat.add_assoc]
  exact next.trans_le (Nat.add_le_add_right reached _)

theorem Recorded.size_le (recorded : run.Recorded sweeper) (punctual : run.Punctual sweeper) :
    run.cache.size ≤ (run.history.recentNames sweeper.period run.now).dedup.length := by
  have entries : run.cache.size = (run.cache.entries.map Prod.fst).length := by
    rw [Cache.size, recorded.faithful.whole, List.length_map]
    rfl
  rw [entries]
  refine (List.subperm_of_subset recorded.faithful.distinct ?_).length_le
  intro name listed
  obtain ⟨entry, member, rfl⟩ := List.mem_map.mp listed
  obtain ⟨written, last, expires, begun⟩ := recorded.dated entry.1 entry.2 member
  have recent := recorded.recent punctual member expires begun
  exact List.mem_dedup.mpr (CacheHistory.recent_of_lastWrite last recent)

/-- A broken cache stays as it is. -/
theorem broken_step (broken : run.cache.broken = true) (act : CacheAct) :
    (run.step act).cache = run.cache := by
  by_cases quiet : act.isQuiet = true
  · rcases run.quiet_cases act quiet with same | ⟨swept, _, same⟩
    · exact same
    · rw [same, Cache.sweep, if_pos broken]
  · cases act with
    | put name value =>
        change (run.cache.put name value run.now).1 = run.cache
        simp [Cache.put, broken]
    | putIfCurrent name value generation =>
        change (run.cache.putIfCurrent name value generation run.now).1 = run.cache
        simp [Cache.putIfCurrent, broken]
    | clear =>
        change run.cache.clear.1 = run.cache
        simp [Cache.clear, broken]
    | get | cleanup | tick | catchUp | shutdown | elapse => exact absurd rfl quiet

/-- Acts that write and clear nothing take away no entry before it has expired. -/
theorem quiet_keeps (quiet : act.isQuiet = true) {entry : String × Cached}
    (held : entry ∈ run.cache.held) (lasts : entry.2.isExpired run.now = false) :
    entry ∈ (run.step act).cache.held := by
  rcases run.quiet_cases act quiet with same | ⟨swept, past, same⟩
  · rwa [same]
  · rw [same, Cache.mem_held_sweep]
    exact ⟨held, past.trans_lt (not_le.mp (of_decide_eq_false lasts))⟩

/-- While its sweeper runs, a cache holds nothing that has expired right after a tick. What it holds
was written a lifetime before it expires, and once all ticks that are due are done less than two
lifetimes ago; so there are no more entries than names written in that time and since the last
clear. Reads, ticks, cleanups, the sweeper's end and time take away no entry before it has expired,
and a cleanup tells by how much the size goes down. A cache that a failed write has broken gives
access to nothing, and keeps what it had at that moment. -/
theorem sweeping_bounds_memory (ttl : Span) (start : Instant) (acts : List CacheAct) :
    let state := CacheRun.run ttl start acts
    (∀ sweeper, state.tended.sweeper = some sweeper →
      sweeper = ⟨start, ttl⟩ ∧
      (∀ entry ∈ (state.step .tick).cache.held, entry.2.isExpired state.now = false) ∧
      (∀ name held, (name, held) ∈ state.cache.held → ∃ written,
        state.history.lastWrite? name = some (held.value, written) ∧
          held.expiry = written + ttl.total ∧
          (state.Punctual sweeper → state.now < written + 2 * ttl.total)) ∧
      (state.Punctual sweeper →
        state.cache.size ≤ (state.history.recentNames ttl state.now).dedup.length)) ∧
    (∀ act, act.isQuiet = true → ∀ entry ∈ state.cache.held,
      entry.2.isExpired state.now = false → entry ∈ (state.step act).cache.held) ∧
    (∃ count, state.result .cleanup = .dropped count ∧
      state.cache.size = (state.step .cleanup).cache.size + count) ∧
    (state.cache.broken = true → state.cache.held = [] ∧
      ∀ act, (state.step act).cache = state.cache) := by
  intro state
  refine ⟨?_, fun act quiet entry held lasts => quiet_keeps quiet held lasts, ?_, ?_⟩
  · intro sweeper runs
    obtain ⟨rfl, _⟩ := run_sweeper ttl start acts runs
    refine ⟨rfl, ?_, ?_, ?_⟩
    · intro entry held
      rw [tick_sweeps runs, Cache.mem_held_sweep] at held
      exact decide_eq_false (not_le.mpr held.2)
    · intro name held access
      obtain ⟨whole, member⟩ := Cache.mem_held.mp access
      have recorded := run_recorded ttl start acts runs whole
      obtain ⟨written, last, expires, begun⟩ := recorded.dated name held member
      exact ⟨written, last, expires, fun punctual =>
        recorded.recent punctual member expires begun⟩
    · intro punctual
      cases broken : state.cache.broken with
      | true =>
          rw [Cache.size, if_pos broken]
          exact Nat.zero_le _
      | false => exact (run_recorded ttl start acts runs broken).size_le punctual
  · refine ⟨_, rfl, ?_⟩
    exact (Nat.add_sub_of_le (state.cache.size_sweep_le state.now)).symm
  · intro broken
    exact ⟨if_pos broken, broken_step broken⟩

/-- Two names are written half a second apart; the first tick drops neither, the second one drops
what was not written again. -/
theorem swept_in_time :
    let acts : List CacheAct := [.put "A" ⟨"one"⟩, .elapse 500000000, .put "B" ⟨"two"⟩,
      .elapse 500000000, .put "A" ⟨"three"⟩, .tick, .elapse 1000000000, .put "A" ⟨"four"⟩, .catchUp,
      .elapse 999999999]
    let state := CacheRun.run (.ofSeconds 1) 0 acts
    state.tended.sweeper = some ⟨0, .ofSeconds 1⟩ ∧ state.Punctual ⟨0, .ofSeconds 1⟩ ∧
      ("A", ⟨⟨"four"⟩, 3000000000⟩) ∈ state.cache.held ∧ state.cache.size ≤ 1 := by
  intro acts state
  have runs : state.tended.sweeper = some ⟨0, .ofSeconds 1⟩ := by decide +kernel
  have punctual : state.Punctual ⟨0, .ofSeconds 1⟩ := by
    intro tick positive past
    have now : state.now = 2999999999 := by decide +kernel
    have few : 0 + tick * 1000000000 ≤ 2999999999 := now ▸ past
    obtain rfl | rfl : tick = 1 ∨ tick = 2 := by omega
    · decide +kernel
    · decide +kernel
  have bounded := ((sweeping_bounds_memory (.ofSeconds 1) 0 acts).1 _ runs).2.2.2 punctual
  have names : (state.history.recentNames (.ofSeconds 1) state.now).dedup = ["A"] := by
    decide +kernel
  rw [names] at bounded
  exact ⟨runs, punctual, by decide +kernel, bounded⟩

end CacheRun

end SecretBroker
