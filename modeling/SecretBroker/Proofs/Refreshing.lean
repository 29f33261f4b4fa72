import Mathlib.Data.List.Induction
import SecretBroker.Proofs.Provenance

/-!
Refreshes among the resolves. A refresh clears the cache, asks the vault to sync, gets the vault's
word on that and is answered; others resolve, clear and sweep in between, and a refresh may be given
up at any point. The deeds record what all of them do, in one order, the latest first.

A clear comes before the sync that follows it, so what is cached in between may be older than the
sync. It is never older than the clear.
-/

namespace SecretBroker

inductive RefreshStep where
  | cleared
  /-- The vault was asked to sync. -/
  | asked
  | synced (answer : Answer Unit)
  | answered

inductive Deed where
  | resolving (record : Record)
  | refreshing (refresh : Nat) (step : RefreshStep)

def Deed.record? : Deed → Option Record
  | .resolving record => some record
  | .refreshing _ _ => none

structure Refreshes where
  traffic : Traffic
  /-- What the refreshes have done last that have not been answered. -/
  stages : Nat → Option RefreshStep
  /-- The number of refreshes that have begun, and the next one. -/
  begun : Nat
  deeds : List Deed

/-- What was recorded between two states of a run. -/
def Traffic.added (before after : Traffic) : History :=
  after.history.take (after.history.length - before.history.length)

namespace Refreshes

inductive Act where
  | traffic (act : SecretBroker.Act)
  | begin
  | ask (refresh : Nat)
  | sync (refresh : Nat) (answer : Answer Unit)
  | answer (refresh : Nat)
  | giveUp (refresh : Nat)

def start (ttl : Span) (now : Instant) : Refreshes := ⟨.start ttl now, fun _ => none, 0, []⟩

/-- The traffic goes on, and what it does is recorded. -/
def moveTraffic (run : Refreshes) (traffic : Traffic) : Refreshes :=
  { run with traffic, deeds := (run.traffic.added traffic).map .resolving ++ run.deeds }

def advance (run : Refreshes) (refresh : Nat) (step : RefreshStep)
    (stage : Option RefreshStep) : Refreshes :=
  { run with
    stages := Function.update run.stages refresh stage
    deeds := .refreshing refresh step :: run.deeds }

/-- One act; one that cannot happen changes nothing. -/
def step (run : Refreshes) : Act → Refreshes
  | .traffic act => run.moveTraffic (run.traffic.step act)
  | .begin =>
    let cleared := run.moveTraffic (run.traffic.step .clear)
    { cleared with begun := run.begun + 1 }.advance run.begun .cleared (some .cleared)
  | .ask refresh =>
    match run.stages refresh with
    | some .cleared => run.advance refresh .asked (some .asked)
    | _ => run
  | .sync refresh answer =>
    match run.stages refresh with
    | some .asked => run.advance refresh (.synced answer) (some (.synced answer))
    | _ => run
  | .answer refresh =>
    match run.stages refresh with
    | some (.synced _) => run.advance refresh .answered none
    | _ => run
  | .giveUp refresh => { run with stages := Function.update run.stages refresh none }

/-- Every run of resolves and refreshes. -/
def run (ttl : Span) (now : Instant) (acts : List Act) : Refreshes :=
  acts.foldl (step) (start ttl now)

/-- Whenever a refresh has been answered and its sync was a success, a resolve that begins later is
served from the cache only with a value whose fetch began after what the refresh did as `mark`. -/
def FreshSince (mark : RefreshStep) (deeds : List Deed) : Prop :=
  ∀ later moment caller name value middle refresh before,
    deeds = later ++ .resolving ⟨moment, .returned caller (.ok value)⟩ ::
      .resolving ⟨moment, .looked caller name⟩ ::
      (middle ++ .refreshing refresh .answered :: before) →
    .refreshing refresh (.synced (.ok ())) ∈ before →
      ∃ during earlier fetcher asked answered,
        before = during ++ .refreshing refresh mark :: earlier ∧
          [Deed.resolving ⟨answered, .delivered fetcher (.ok value)⟩,
            .resolving ⟨asked, .asked fetcher name⟩].Sublist
              (middle ++ .refreshing refresh .answered :: during)

end Refreshes

namespace Traffic

variable {ttl : Span} {traffic : Traffic}

theorem added_append {before after : Traffic} {recent : History}
    (grown : after.history = recent ++ before.history) : before.added after = recent := by
  simp [added, grown]

theorem step_grows (traffic : Traffic) (act : Act) :
    ∃ recent, (traffic.step act).history = recent ++ traffic.history := by
  cases act with
  | look name =>
      simp only [step, look]
      split
      · exact ⟨[_, _], rfl⟩
      · exact ⟨[_], rfl⟩
  | ask caller =>
      simp only [step]
      split
      · exact ⟨[_], rfl⟩
      · exact ⟨[], rfl⟩
  | deliver caller answer =>
      simp only [step]
      split
      · exact ⟨[_], rfl⟩
      · exact ⟨[], rfl⟩
  | settle caller =>
      simp only [step]
      split
      · exact ⟨[_], rfl⟩
      · exact ⟨[], rfl⟩
  | giveUp caller =>
      simp only [step]
      split
      · exact ⟨[_], rfl⟩
      · exact ⟨[], rfl⟩
  | clear => exact ⟨[_], rfl⟩
  | sweep moment => exact ⟨[], rfl⟩
  | elapse span => exact ⟨[], rfl⟩

theorem step_history (traffic : Traffic) (act : Act) :
    (traffic.step act).history =
      traffic.added (traffic.step act) ++ traffic.history := by
  obtain ⟨recent, grown⟩ := traffic.step_grows act
  rw [added_append grown, grown]

/-- A resolve that returns as soon as it has looked did not fetch, so its value is that of a lookup
since the last clear. -/
theorem served_since_clear (sound : Sound ttl traffic) (orderly : Orderly traffic)
    {later past : History} {moment : Instant} {caller : Nat} {name : String} {value : Secret}
    (split : traffic.history = later ++ ⟨moment, .returned caller (.ok value)⟩ ::
      ⟨moment, .looked caller name⟩ :: past) :
    ∃ fetcher answered, Fetched fetcher name value answered past.sinceClear := by
  obtain ⟨found, grounded⟩ := sound.answers _ _ _ _ _ split
  obtain ⟨answered, looked, asked, inside⟩ | ⟨fetcher, _, earlier, same, written, _⟩ := grounded
  · -- Its own fetch would have begun with an earlier look of the same caller.
    have passed : ([⟨answered, .delivered caller (.ok value)⟩, ⟨asked, .asked caller found⟩,
        ⟨looked, .looked caller found⟩] : History).Sublist past := by
      rcases List.sublist_cons_iff.mp inside with inPast | ⟨taken, same, _⟩
      · exact inPast
      · cases (List.cons.inj same).1
    have before : ⟨looked, .looked caller found⟩ ∈ past := passed.subset (by simp)
    have again : caller ∈ (History.resolves past).map Prod.fst :=
      List.mem_map_of_mem (looked_resolves looked before)
    have resolves : traffic.history.resolves =
        History.resolves later ++ (caller, name) :: History.resolves past := by
      rw [split]
      simp [History.resolves, Happening.resolve?]
    have once := orderly.once
    rw [resolves, List.map_append, List.map_cons] at once
    have fresh := (List.nodup_cons.mp (List.nodup_append.mp once).2.1).1
    exact absurd again fresh
  · obtain ⟨head, rfl⟩ := List.cons.inj same
    obtain ⟨_, rfl⟩ := Happening.looked.inj (Record.mk.inj head).2
    exact ⟨fetcher, written.fetched⟩

end Traffic

/-- What the resolves among the deeds did. -/
def recordsOf (deeds : List Deed) : History := deeds.filterMap Deed.record?

theorem recordsOf_record (record : Record) (deeds : List Deed) :
    recordsOf (.resolving record :: deeds) = record :: recordsOf deeds := rfl

theorem recordsOf_refresh (refresh : Nat) (step : RefreshStep) (deeds : List Deed) :
    recordsOf (.refreshing refresh step :: deeds) = recordsOf deeds := rfl

theorem recordsOf_resolving (records : History) : recordsOf (records.map .resolving) = records := by
  induction records with
  | nil => rfl
  | cons record rest ih => rw [List.map_cons, recordsOf_record, ih]

theorem recordsOf_append (recent older : List Deed) :
    recordsOf (recent ++ older) = recordsOf recent ++ recordsOf older :=
  List.filterMap_append

theorem sublist_of_records {records : History} {deeds : List Deed}
    (inside : records.Sublist (recordsOf deeds)) : (records.map Deed.resolving).Sublist deeds := by
  induction deeds generalizing records with
  | nil =>
      have none_inside : records = [] := List.sublist_nil.mp inside
      subst none_inside
      exact List.Sublist.slnil
  | cons deed rest ih =>
      cases deed with
      | refreshing refresh step => exact (ih inside).cons _
      | resolving record =>
          have split : records.Sublist (record :: recordsOf rest) := inside
          rcases List.sublist_cons_iff.mp split with passed | ⟨taken, rfl, kept⟩
          · exact (ih passed).cons _
          · exact (ih kept).cons_cons _

namespace History

/-- What happened since the last clear happened after each clear. -/
theorem sinceClear_recent (recent older : History) (moment : Instant) :
    (sinceClear (recent ++ ⟨moment, .cleared⟩ :: older)).Sublist recent := by
  induction recent with
  | nil => simp [sinceClear, Happening.isClear]
  | cons record rest ih =>
      simp only [sinceClear, List.cons_append, List.takeWhile_cons]
      split
      · exact ih.cons_cons record
      · exact List.nil_sublist _

end History

namespace Refreshes

variable {ttl : Span} {run : Refreshes}

/-- What stands below a refresh's deed stands there without the records above it. -/
theorem suffix_below_records {records : History} {deeds earlier : List Deed} {refresh : Nat}
    {step : RefreshStep}
    (below : (.refreshing refresh step :: earlier) <:+ records.map Deed.resolving ++ deeds) :
    (.refreshing refresh step :: earlier) <:+ deeds := by
  induction records with
  | nil => exact below
  | cons record rest ih =>
      have split : (.refreshing refresh step :: earlier) <:+
          .resolving record :: (rest.map Deed.resolving ++ deeds) := below
      rcases List.suffix_cons_iff.mp split with whole | inside
      · cases (List.cons.inj whole).1
      · exact ih inside

/-- The deeds hold the history, and a refresh that goes on or has been answered has cleared the
cache before. -/
structure Ordered (run : Refreshes) : Prop where
  records : recordsOf run.deeds = run.traffic.history
  clears : ∀ refresh earlier, (.refreshing refresh .cleared :: earlier) <:+ run.deeds →
    ∃ moment older, earlier = .resolving ⟨moment, .cleared⟩ :: older
  cleared : ∀ refresh stage, run.stages refresh = some stage →
    .refreshing refresh .cleared ∈ run.deeds
  answered : ∀ refresh earlier, (.refreshing refresh .answered :: earlier) <:+ run.deeds →
    .refreshing refresh .cleared ∈ earlier

theorem start_ordered (ttl : Span) (now : Instant) : Ordered (start ttl now) where
  records := rfl
  clears refresh earlier below := by simp [start] at below
  cleared refresh stage inFlight := by cases inFlight
  answered refresh earlier below := by simp [start] at below

theorem Ordered.traffic (ordered : Ordered run) (act : SecretBroker.Act) :
    Ordered (run.moveTraffic (run.traffic.step act)) where
  records := by
    simp only [moveTraffic]
    rw [recordsOf_append, recordsOf_resolving, ordered.records]
    exact (run.traffic.step_history act).symm
  clears refresh earlier below := ordered.clears refresh earlier (suffix_below_records below)
  cleared refresh stage inFlight :=
    List.mem_append_right _ (ordered.cleared refresh stage inFlight)
  answered refresh earlier below := ordered.answered refresh earlier (suffix_below_records below)

theorem Ordered.advance (ordered : Ordered run) (refresh : Nat) (step : RefreshStep)
    (stage : Option RefreshStep) (later : step ≠ .cleared)
    (cleared : .refreshing refresh .cleared ∈ run.deeds) :
    Ordered (run.advance refresh step stage) where
  records := ordered.records
  clears other earlier below := by
    rcases List.suffix_cons_iff.mp below with whole | inside
    · obtain ⟨_, same⟩ := Deed.refreshing.inj (List.cons.inj whole).1
      exact absurd same.symm later
    · exact ordered.clears other earlier inside
  cleared other next inFlight := by
    apply List.mem_cons_of_mem
    by_cases same : other = refresh
    · rw [same]
      exact cleared
    · apply ordered.cleared other next
      simpa [Refreshes.advance, same] using inFlight
  answered other earlier below := by
    rcases List.suffix_cons_iff.mp below with whole | inside
    · obtain ⟨head, rfl⟩ := List.cons.inj whole
      obtain ⟨rfl, _⟩ := Deed.refreshing.inj head
      exact cleared
    · exact ordered.answered other earlier inside

theorem Ordered.begin (ordered : Ordered run) : Ordered (run.step .begin) := by
  have moved := ordered.traffic .clear
  have added : run.traffic.added (run.traffic.step .clear) = [⟨run.traffic.now, .cleared⟩] :=
    Traffic.added_append rfl
  constructor
  · exact moved.records
  · intro refresh earlier below
    rcases List.suffix_cons_iff.mp below with whole | inside
    · obtain ⟨_, rfl⟩ := List.cons.inj whole
      exact ⟨run.traffic.now, run.deeds, by simp only [moveTraffic, added]; rfl⟩
    · exact moved.clears refresh earlier inside
  · intro refresh stage inFlight
    by_cases same : refresh = run.begun
    · rw [same]
      exact List.mem_cons_self
    · apply List.mem_cons_of_mem
      apply moved.cleared refresh stage
      simpa [step, Refreshes.advance, same] using inFlight
  · intro refresh earlier below
    rcases List.suffix_cons_iff.mp below with whole | inside
    · cases (Deed.refreshing.inj (List.cons.inj whole).1).2
    · exact moved.answered refresh earlier inside

theorem Ordered.step (ordered : Ordered run) (act : Act) :
    Ordered (run.step act) := by
  cases act with
  | traffic act => exact ordered.traffic act
  | begin => exact ordered.begin
  | ask refresh =>
      simp only [Refreshes.step]
      split
      · rename_i cleared
        exact ordered.advance _ _ _ (by simp) (ordered.cleared _ _ cleared)
      · exact ordered
  | sync refresh answer =>
      simp only [Refreshes.step]
      split
      · rename_i asked
        exact ordered.advance _ _ _ (by simp) (ordered.cleared _ _ asked)
      · exact ordered
  | answer refresh =>
      simp only [Refreshes.step]
      split
      · rename_i synced
        exact ordered.advance _ _ _ (by simp) (ordered.cleared _ _ synced)
      · exact ordered
  | giveUp refresh =>
      refine ⟨ordered.records, ordered.clears, ?_, ordered.answered⟩
      intro other stage inFlight
      by_cases same : other = refresh
      · simp [Refreshes.step, same] at inFlight
      · apply ordered.cleared other stage
        simpa [Refreshes.step, same] using inFlight

/-- Refreshes do to the cache what a clear does, and leave it alone otherwise. -/
theorem step_traffic (run : Refreshes) (act : Act) :
    (run.step act).traffic = run.traffic ∨
      ∃ doing, (run.step act).traffic = run.traffic.step doing := by
  cases act with
  | traffic act => exact Or.inr ⟨act, rfl⟩
  | begin => exact Or.inr ⟨.clear, rfl⟩
  | ask refresh =>
      simp only [step]
      split <;> exact Or.inl rfl
  | sync refresh answer =>
      simp only [step]
      split <;> exact Or.inl rfl
  | answer refresh =>
      simp only [step]
      split <;> exact Or.inl rfl
  | giveUp refresh => exact Or.inl rfl

theorem run_last (ttl : Span) (now : Instant) (acts : List Act) (act : Act) :
    Refreshes.run ttl now (acts ++ [act]) = (Refreshes.run ttl now acts).step act := by
  simp [Refreshes.run]

theorem run_ordered (ttl : Span) (now : Instant) (acts : List Act) :
    Ordered (Refreshes.run ttl now acts) := by
  induction acts using List.reverseRecOn with
  | nil => exact start_ordered ttl now
  | append_singleton acts act ih =>
      rw [run_last]
      exact ih.step act

/-- The traffic of a run is a run of traffic. -/
theorem run_traffic (ttl : Span) (now : Instant) (acts : List Act) :
    ∃ doings, (Refreshes.run ttl now acts).traffic = Traffic.run ttl now doings := by
  induction acts using List.reverseRecOn with
  | nil => exact ⟨[], rfl⟩
  | append_singleton acts act ih =>
      obtain ⟨doings, same⟩ := ih
      rw [run_last]
      rcases step_traffic (Refreshes.run ttl now acts) act with still | ⟨doing, moved⟩
      · exact ⟨doings, still.trans same⟩
      · refine ⟨doings ++ [doing], ?_⟩
        rw [moved, same]
        simp [Traffic.run]

/-- In every run: once a refresh has been answered, its sync a success, no resolve that begins
later is served from the cache with a value whose fetch began before the refresh cleared the
cache. -/
theorem fresh_since_clear (ttl : Span) (now : Instant) (acts : List Act) :
    FreshSince .cleared (Refreshes.run ttl now acts).deeds := by
  intro later moment caller name value middle refresh before split _
  have ordered := run_ordered ttl now acts
  obtain ⟨doings, same⟩ := run_traffic ttl now acts
  have sound := Traffic.run_sound ttl now doings
  have orderly := Traffic.run_orderly ttl now doings
  rw [← same] at sound orderly
  -- The refresh has cleared the cache before it was answered.
  have cleared : .refreshing refresh .cleared ∈ before := by
    apply ordered.answered refresh before
    rw [split]
    exact ⟨later ++ .resolving ⟨moment, .returned caller (.ok value)⟩ ::
      .resolving ⟨moment, .looked caller name⟩ :: middle, by simp⟩
  obtain ⟨during, earlier, rfl⟩ := List.append_of_mem cleared
  obtain ⟨instant, older, rfl⟩ : ∃ instant older,
      earlier = .resolving ⟨instant, .cleared⟩ :: older := by
    apply ordered.clears refresh earlier
    rw [split]
    exact ⟨later ++ .resolving ⟨moment, .returned caller (.ok value)⟩ ::
      .resolving ⟨moment, .looked caller name⟩ ::
        (middle ++ .refreshing refresh .answered :: during), by simp⟩
  have history : (Refreshes.run ttl now acts).traffic.history =
      recordsOf later ++ ⟨moment, .returned caller (.ok value)⟩ :: ⟨moment, .looked caller name⟩ ::
        ((recordsOf middle ++ recordsOf during) ++ ⟨instant, .cleared⟩ :: recordsOf older) := by
    rw [← ordered.records, split]
    simp [recordsOf_append, recordsOf_record, recordsOf_refresh]
  obtain ⟨fetcher, answered, looked, asked, inside⟩ :=
    Traffic.served_since_clear sound orderly history
  have recent := inside.trans (History.sinceClear_recent _ _ _)
  have fetched : ([⟨answered, .delivered fetcher (.ok value)⟩, ⟨asked, .asked fetcher name⟩] :
      History).Sublist (recordsOf (middle ++ .refreshing refresh .answered :: during)) := by
    rw [recordsOf_append, recordsOf_refresh]
    exact List.Sublist.trans (by simp) recent
  exact ⟨during, _, fetcher, asked, answered, rfl, sublist_of_records fetched⟩

/-- A lookup overtakes the sync of a refresh: it fetches and caches between the clear and the sync,
and another one follows once the refresh has been answered. -/
def overtaking : List Act :=
  [.begin, .traffic (.look "A"), .traffic (.ask 0), .traffic (.deliver 0 (.ok ⟨"old"⟩)),
    .traffic (.settle 0), .ask 0, .sync 0 (.ok ()), .answer 0, .traffic (.look "A")]

/-- What was done before the answer to the overtaken refresh. -/
def overtaken : List Deed :=
  [.refreshing 0 (.synced (.ok ())), .refreshing 0 .asked,
    .resolving ⟨0, .returned 0 (.ok ⟨"old"⟩)⟩, .resolving ⟨0, .delivered 0 (.ok ⟨"old"⟩)⟩,
    .resolving ⟨0, .asked 0 "A"⟩, .resolving ⟨0, .looked 0 "A"⟩, .refreshing 0 .cleared,
    .resolving ⟨0, .cleared⟩]

theorem fresh_since_clear_overtaken :
    (Refreshes.run (.ofSeconds 300) 0 overtaking).deeds =
        .resolving ⟨0, .returned 1 (.ok ⟨"old"⟩)⟩ :: .resolving ⟨0, .looked 1 "A"⟩ ::
          .refreshing 0 .answered :: overtaken ∧
      .refreshing 0 (.synced (.ok ())) ∈ overtaken ∧
      ∃ during earlier fetcher asked answered,
        overtaken = during ++ .refreshing 0 .cleared :: earlier ∧
          [Deed.resolving ⟨answered, .delivered fetcher (.ok ⟨"old"⟩)⟩,
            .resolving ⟨asked, .asked fetcher "A"⟩].Sublist
              ([] ++ .refreshing 0 .answered :: during) :=
  ⟨rfl, List.mem_cons_self, fresh_since_clear (.ofSeconds 300) 0 overtaking [] 0 1 "A" ⟨"old"⟩ []
    0 overtaken rfl List.mem_cons_self⟩

/-- What a lookup caches between the clear and the sync of a refresh is what the vault had before
the sync, and it is served from the cache after the refresh was answered. -/
theorem not_fresh_since_sync :
    ¬ FreshSince (.synced (.ok ())) (Refreshes.run (.ofSeconds 300) 0 overtaking).deeds := by
  intro fresh
  obtain ⟨during, earlier, fetcher, asked, answered, same, inside⟩ :=
    fresh [] 0 1 "A" ⟨"old"⟩ [] 0 overtaken rfl List.mem_cons_self
  -- Nothing was done between the sync and the answer, so there is no fetch after the sync.
  cases during with
  | nil =>
      have short := inside.length_le
      simp at short
  | cons deed rest =>
      have again : .refreshing 0 (.synced (.ok ())) ∈
          rest ++ .refreshing 0 (.synced (.ok ())) :: earlier := by simp
      obtain ⟨_, tail⟩ := List.cons.inj same
      change _ = rest ++ .refreshing 0 (.synced (.ok ())) :: earlier at tail
      rw [← tail] at again
      simp at again

end Refreshes
end SecretBroker
