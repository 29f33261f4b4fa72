import Mathlib.Data.List.Nodup
import SecretBroker.Proofs.Resolving
import SecretBroker.Proofs.Traffic

/-!
Where the answers of a resolver come from. Every value that a resolve returns was delivered by
the vault, either to that resolve or to an earlier one of the same name that began after the last
clear and has written it back less than a lifetime ago. A lifetime counts from the write-back, not
from the vault's answer. The invariant follows each resolve in flight by the records that it has
left, and each entry by those of the resolve that wrote it.
-/

namespace SecretBroker

namespace History

theorem sinceClear_cons (record : Record) (history : History)
    (plain : record.what.isClear = false) :
    sinceClear (record :: history) = record :: history.sinceClear := by
  simp [sinceClear, plain]

end History

/-- The caller and the name of a resolve that begins. -/
def Happening.resolve? : Happening → Option (Nat × String)
  | .looked caller name => some (caller, name)
  | _ => none

/-- The resolves that have begun. -/
def History.resolves (history : History) : List (Nat × String) :=
  history.filterMap fun record => record.what.resolve?

theorem Happening.ending_resolve (caller : Nat) (settled : Option (Answer Secret)) :
    (ending caller settled).resolve? = none := by
  cases settled <;> rfl

theorem Happening.ending_ne_asked (caller other : Nat) (settled : Option (Answer Secret))
    (name : String) : ending caller settled ≠ .asked other name := by
  cases settled <;> simp [ending]

theorem Happening.ending_plain (caller : Nat) (settled : Option (Answer Secret)) :
    (ending caller settled).isClear = false := by
  cases settled <;> rfl

/-- The records of a resolve from its look at the cache to the vault's value, in this order. -/
def Fetched (caller : Nat) (name : String) (value : Secret) (answered : Instant)
    (history : History) : Prop :=
  ∃ looked asked, [⟨answered, .delivered caller (.ok value)⟩, ⟨asked, .asked caller name⟩,
    ⟨looked, .looked caller name⟩].Sublist history

/-- The records of a resolve that has written the vault's value back and returned it. -/
def Stored (caller : Nat) (name : String) (value : Secret) (stored : Instant)
    (history : History) : Prop :=
  ∃ looked asked answered, [⟨stored, .returned caller (.ok value)⟩,
    ⟨answered, .delivered caller (.ok value)⟩, ⟨asked, .asked caller name⟩,
    ⟨looked, .looked caller name⟩].Sublist history

theorem Stored.fetched {caller : Nat} {name : String} {value : Secret} {stored : Instant}
    {history : History} (written : Stored caller name value stored history) :
    ∃ answered, Fetched caller name value answered history := by
  obtain ⟨looked, asked, answered, inside⟩ := written
  exact ⟨answered, looked, asked, (List.sublist_cons_self _ _).trans inside⟩

theorem Stored.cons {caller : Nat} {name : String} {value : Secret} {stored : Instant}
    {history : History} (written : Stored caller name value stored history) (record : Record) :
    Stored caller name value stored (record :: history) := by
  obtain ⟨looked, asked, answered, inside⟩ := written
  exact ⟨looked, asked, answered, inside.cons _⟩

/-- What a history says of a resolve in flight. -/
def Stage.Trail (caller : Nat) (history : History) : Stage → Prop
  | .missed lookup => ∃ looked, [⟨looked, .looked caller lookup.name⟩].Sublist history
  | .fetching lookup => ∃ looked asked, [⟨asked, .asked caller lookup.name⟩,
      ⟨looked, .looked caller lookup.name⟩].Sublist history
  | .fetched lookup answer since => ∃ looked asked, [⟨since, .delivered caller answer⟩,
      ⟨asked, .asked caller lookup.name⟩, ⟨looked, .looked caller lookup.name⟩].Sublist history

theorem Stage.Trail.cons {caller : Nat} {history : History} {stage : Stage}
    (trail : stage.Trail caller history) (record : Record) :
    stage.Trail caller (record :: history) := by
  cases stage with
  | missed lookup =>
      obtain ⟨looked, inside⟩ := trail
      exact ⟨looked, inside.cons _⟩
  | fetching lookup =>
      obtain ⟨looked, asked, inside⟩ := trail
      exact ⟨looked, asked, inside.cons _⟩
  | fetched lookup answer since =>
      obtain ⟨looked, asked, inside⟩ := trail
      exact ⟨looked, asked, inside.cons _⟩

/-- Why a resolve of a name may return a value: its own lookup has brought it, or the look at the
cache just before found the value that a lookup since the last clear has stored less than a lifetime
ago. -/
def Grounded (ttl : Span) (moment : Instant) (caller : Nat) (name : String) (value : Secret)
    (before : History) : Prop :=
  (∃ answered, Fetched caller name value answered before) ∨
    ∃ (fetcher : Nat) (stored : Instant) (earlier : History),
      before = ⟨moment, .looked caller name⟩ :: earlier ∧
        Stored fetcher name value stored earlier.sinceClear ∧ moment < stored + ttl.total

namespace Traffic

/-- The records of a resolve in flight are there, and those of one in the current generation
are younger than the last clear; so are those behind every entry. -/
structure Sound (ttl : Span) (traffic : Traffic) : Prop where
  ttl_eq : traffic.cache.ttl = ttl
  trails : ∀ caller stage, traffic.stages caller = some stage →
    stage.Trail caller traffic.history
  current : traffic.cache.broken = false → ∀ caller stage, traffic.stages caller = some stage →
    stage.lookup.generation ≤ traffic.cache.generation ∧
      (stage.lookup.generation = traffic.cache.generation →
        stage.Trail caller traffic.history.sinceClear)
  entries : traffic.cache.broken = false → ∀ name held, (name, held) ∈ traffic.cache.entries →
    ∃ fetcher stored, Stored fetcher name held.value stored traffic.history.sinceClear ∧
      held.expiry = stored + ttl.total
  answers : ∀ later moment caller value before,
    traffic.history = later ++ ⟨moment, .returned caller (.ok value)⟩ :: before →
      ∃ name, Grounded ttl moment caller name value before

variable {ttl : Span} {traffic : Traffic}

theorem note_sinceClear (traffic : Traffic) {what : Happening} (plain : what.isClear = false) :
    (traffic.note what).history.sinceClear =
      ⟨traffic.now, what⟩ :: traffic.history.sinceClear :=
  History.sinceClear_cons _ _ plain

theorem start_sound (ttl : Span) (now : Instant) : Sound ttl (start ttl now) where
  ttl_eq := rfl
  trails := by intro caller stage inFlight; cases inFlight
  current := by intro _ caller stage inFlight; cases inFlight
  entries := by
    intro _ name held member
    cases member
  answers := by
    intro later moment caller value before same
    simp [start] at same

/-- The invariant looks at the cache, the resolves in flight and the history only. -/
theorem Sound.congr (sound : Sound ttl traffic) (other : Traffic)
    (sameCache : other.cache = traffic.cache) (sameStages : other.stages = traffic.stages)
    (sameHistory : other.history = traffic.history) : Sound ttl other where
  ttl_eq := by rw [sameCache]; exact sound.ttl_eq
  trails := by rw [sameStages, sameHistory]; exact sound.trails
  current := by rw [sameCache, sameStages, sameHistory]; exact sound.current
  entries := by rw [sameCache, sameHistory]; exact sound.entries
  answers := by rw [sameHistory]; exact sound.answers

theorem Sound.note (sound : Sound ttl traffic) (what : Happening)
    (plain : what.isClear = false)
    (grounded : ∀ caller value, what = .returned caller (.ok value) →
      ∃ name, Grounded ttl traffic.now caller name value traffic.history) :
    Sound ttl (traffic.note what) where
  ttl_eq := sound.ttl_eq
  trails caller stage inFlight := (sound.trails caller stage inFlight).cons _
  current whole caller stage inFlight := by
    obtain ⟨notAhead, recent⟩ := sound.current whole caller stage inFlight
    rw [note_sinceClear traffic plain]
    exact ⟨notAhead, fun same => (recent same).cons _⟩
  entries whole name held member := by
    obtain ⟨fetcher, stored, written, expires⟩ := sound.entries whole name held member
    rw [note_sinceClear traffic plain]
    exact ⟨fetcher, stored, written.cons _, expires⟩
  answers later moment caller value before same := by
    -- Of the values returned only that of the new record has to be accounted for.
    cases later with
    | nil =>
        obtain ⟨head, tail⟩ := List.cons.inj same
        obtain ⟨rfl, rfl⟩ := Record.mk.inj head
        rw [← tail]
        exact grounded caller value rfl
    | cons record rest =>
        exact sound.answers rest moment caller value before (List.cons.inj same).2

theorem Sound.advance (sound : Sound ttl traffic) (caller : Nat) (next : Option Stage)
    (trail : ∀ stage, next = some stage → stage.Trail caller traffic.history)
    (recent : traffic.cache.broken = false → ∀ stage, next = some stage →
      stage.lookup.generation ≤ traffic.cache.generation ∧
        (stage.lookup.generation = traffic.cache.generation →
          stage.Trail caller traffic.history.sinceClear)) :
    Sound ttl (traffic.advance caller next) where
  ttl_eq := sound.ttl_eq
  trails other stage inFlight := by
    by_cases same : other = caller
    · subst other
      exact trail stage (by simpa [Traffic.advance] using inFlight)
    · exact sound.trails other stage (by simpa [Traffic.advance, same] using inFlight)
  current whole other stage inFlight := by
    by_cases same : other = caller
    · subst other
      exact recent whole stage (by simpa [Traffic.advance] using inFlight)
    · exact sound.current whole other stage (by simpa [Traffic.advance, same] using inFlight)
  entries := sound.entries
  answers := sound.answers

/-- A resolve goes on: what it does next is recorded, and its trail grows by that record. -/
theorem Sound.proceed (sound : Sound ttl traffic) (caller : Nat) (prior next : Stage)
    (what : Happening) (inFlight : traffic.stages caller = some prior)
    (plain : what.isClear = false)
    (unreturned : ∀ other answer, what ≠ .returned other answer)
    (same : next.lookup = prior.lookup)
    (grows : ∀ history : History, prior.Trail caller history →
      next.Trail caller (⟨traffic.now, what⟩ :: history)) :
    Sound ttl ((traffic.note what).advance caller (some next)) := by
  have noted : Sound ttl (traffic.note what) :=
    sound.note what plain fun other value returned => absurd returned (unreturned _ _)
  refine noted.advance caller (some next) ?_ ?_
  · intro stage isNext
    obtain rfl := Option.some.inj isNext
    exact grows _ (sound.trails caller prior inFlight)
  · intro whole stage isNext
    obtain rfl := Option.some.inj isNext
    obtain ⟨notAhead, recent⟩ := sound.current whole caller prior inFlight
    rw [same, note_sinceClear traffic plain]
    exact ⟨notAhead, fun current => grows _ (recent current)⟩

theorem Sound.finished (sound : Sound ttl traffic) (caller : Nat) :
    Sound ttl (traffic.advance caller none) :=
  sound.advance caller none (by simp) (by simp)

/-- The one look at the cache that serves a value serves that of an entry. -/
theorem look_sound (sound : Sound ttl traffic) (name : String) :
    Sound ttl (traffic.look name) := by
  let opened : Traffic := { traffic with
    resolver := (traffic.resolver.begin name traffic.now).1
    callers := traffic.callers + 1 }
  have sameCache : opened.cache = traffic.cache := traffic.resolver.begin_cache name traffic.now
  have begun : Sound ttl (opened.note (.looked traffic.callers name)) :=
    (sound.congr opened sameCache rfl rfl).note _ rfl (by simp)
  rcases traffic.resolver.begin_cases name traffic.now with
    ⟨_, answered⟩ | ⟨value, hit, answered⟩ | ⟨_, fetching⟩
  · simp only [look, answered]
    exact begun.note _ rfl (by simp)
  · simp only [look, answered]
    refine begun.note _ rfl ?_
    intro caller served returned
    obtain ⟨rfl, ok_eq⟩ := Happening.returned.inj returned
    obtain rfl := Except.ok.inj ok_eq
    obtain ⟨whole, held, member, rfl, inside⟩ := Cache.read_hit _ _ _ _ hit
    -- The look is the latest record, and the entry was there before it.
    obtain ⟨fetcher, stored, written, expires⟩ := sound.entries whole name held member
    exact ⟨name, Or.inr ⟨fetcher, stored, traffic.history, rfl, written, expires ▸ inside⟩⟩
  · simp only [look, fetching]
    refine begun.advance _ _ ?_ ?_
    · intro stage isMissed
      obtain rfl := Option.some.inj isMissed
      exact ⟨traffic.now, (List.nil_sublist _).cons_cons _⟩
    · intro whole stage isMissed
      obtain rfl := Option.some.inj isMissed
      rw [note_sinceClear opened rfl]
      exact ⟨Nat.le_of_eq (congrArg Cache.generation sameCache.symm), fun _ =>
        ⟨traffic.now, (List.nil_sublist _).cons_cons _⟩⟩

theorem ask_sound (sound : Sound ttl traffic) (caller : Nat) (lookup : Lookup)
    (missed : traffic.stages caller = some (.missed lookup)) :
    Sound ttl ((traffic.note (.asked caller lookup.name)).advance caller
      (some (.fetching lookup))) := by
  refine sound.proceed caller _ _ _ missed rfl (by simp) rfl ?_
  rintro history ⟨looked, inside⟩
  exact ⟨looked, traffic.now, inside.cons_cons _⟩

theorem deliver_sound (sound : Sound ttl traffic) (caller : Nat) (lookup : Lookup)
    (answer : Answer Secret) (fetching : traffic.stages caller = some (.fetching lookup)) :
    Sound ttl ((traffic.note (.delivered caller answer)).advance caller
      (some (.fetched lookup answer traffic.now))) := by
  refine sound.proceed caller _ _ _ fetching rfl (by simp) rfl ?_
  rintro history ⟨looked, asked, inside⟩
  exact ⟨looked, asked, inside.cons_cons _⟩

/-- An entry may be stored by a lookup all of whose records are younger than the last clear. -/
theorem insert_sound (sound : Sound ttl traffic) {resolver : Resolver} {caller : Nat}
    {name : String} {value : Secret} {stored : Instant}
    (written : resolver.cache = traffic.cache.insert name ⟨value, stored + ttl.total⟩)
    (recent : Stored caller name value stored traffic.history.sinceClear) :
    Sound ttl (traffic.withResolver resolver) where
  ttl_eq := by
    simp only [cache, withResolver, written]
    exact sound.ttl_eq
  trails := sound.trails
  current := by
    simp only [cache, withResolver, written]
    exact sound.current
  entries := by
    intro whole other held member
    simp only [cache, withResolver, written] at whole member
    rw [Cache.mem_insert] at member
    rcases member with ⟨rfl, rfl⟩ | ⟨_, kept⟩
    · exact ⟨caller, stored, recent, rfl⟩
    · exact sound.entries whole other held kept
  answers := sound.answers

theorem break_sound (sound : Sound ttl traffic) {resolver : Resolver}
    (broken : resolver.cache = { traffic.cache with broken := true }) :
    Sound ttl (traffic.withResolver resolver) where
  ttl_eq := by
    simp only [cache, withResolver, broken]
    exact sound.ttl_eq
  trails := sound.trails
  current := by simp [cache, withResolver, broken]
  entries := by simp [cache, withResolver, broken]
  answers := sound.answers

/-- A write-back keeps the invariant: an entry is stored only while the generation that its
lookup noted is still the cache's, and so only if all its records are younger than a clear. -/
theorem settle_sound (sound : Sound ttl traffic) (caller : Nat) (lookup : Lookup)
    (answer : Answer Secret) (since : Instant)
    (fetched : traffic.stages caller = some (.fetched lookup answer since)) :
    Sound ttl (traffic.settle caller lookup answer) := by
  have noted : Sound ttl (traffic.note
      (.ending caller (traffic.resolver.finish lookup answer traffic.now).2)) := by
    refine sound.note _ (Happening.ending_plain _ _) ?_
    intro other value ending
    cases settled : (traffic.resolver.finish lookup answer traffic.now).2 with
    | none =>
        rw [settled] at ending
        cases ending
    | some returned =>
        rw [settled] at ending
        obtain ⟨rfl, rfl⟩ := Happening.returned.inj ending
        obtain rfl := Resolver.finish_answer _ _ _ _ _ settled
        exact ⟨lookup.name, Or.inl ⟨since, sound.trails caller _ fetched⟩⟩
  suffices written : Sound ttl ((traffic.note
      (.ending caller (traffic.resolver.finish lookup answer traffic.now).2)).withResolver
        (traffic.resolver.finish lookup answer traffic.now).1) from written.finished caller
  cases answer with
  | error error => exact noted.congr _ rfl rfl rfl
  | ok value =>
      rcases traffic.resolver.finish_value lookup value traffic.now with
        ⟨same, _⟩ | ⟨whole, current, stored, returned⟩ | ⟨broken, _⟩
      · exact noted.congr _ same rfl rfl
      · -- The lookup is of the current generation, so its records are all in there.
        obtain ⟨looked, asked, inside⟩ := (sound.current whole caller _ fetched).2 current.symm
        have lifetime : traffic.resolver.cache.ttl = ttl := sound.ttl_eq
        rw [lifetime] at stored
        refine insert_sound noted stored (?_ : Stored caller _ _ _ _)
        rw [note_sinceClear traffic (Happening.ending_plain _ _), returned]
        exact ⟨looked, asked, since, inside.cons_cons _⟩
      · exact break_sound noted broken

theorem clear_sound (sound : Sound ttl traffic) :
    Sound ttl ((traffic.withResolver traffic.resolver.invalidate.1).note .cleared) := by
  have cleared : traffic.resolver.invalidate.1.cache = traffic.cache.clear.1 := rfl
  refine ⟨?_, fun caller stage inFlight => (sound.trails caller stage inFlight).cons _, ?_, ?_, ?_⟩
  · change (traffic.resolver.invalidate.1.cache).ttl = ttl
    rw [cleared]
    rcases traffic.cache.clear_cases with ⟨_, same⟩ | ⟨_, emptied⟩
    · rw [same]
      exact sound.ttl_eq
    · rw [emptied]
      exact sound.ttl_eq
  · change (traffic.resolver.invalidate.1.cache).broken = false → _
    rw [cleared]
    rcases traffic.cache.clear_cases with ⟨broken, same⟩ | ⟨whole, emptied⟩
    · rw [same, broken]
      simp
    · intro _ caller stage inFlight
      have notAhead := (sound.current whole caller stage inFlight).1
      change stage.lookup.generation ≤ (traffic.resolver.invalidate.1.cache).generation ∧
        (stage.lookup.generation = (traffic.resolver.invalidate.1.cache).generation → _)
      rw [cleared, emptied]
      -- No lookup in flight is of the generation that a clear begins.
      exact ⟨by simp only; omega, fun current => by simp only at current; omega⟩
  · change (traffic.resolver.invalidate.1.cache).broken = false →
      ∀ name held, (name, held) ∈ (traffic.resolver.invalidate.1.cache).entries → _
    rw [cleared]
    rcases traffic.cache.clear_cases with ⟨broken, same⟩ | ⟨_, emptied⟩
    · rw [same, broken]
      simp
    · rw [emptied]
      simp
  · intro later moment caller value before same
    cases later with
    | nil => cases (List.cons.inj same).1
    | cons record rest => exact sound.answers rest moment caller value before (List.cons.inj same).2

theorem sweep_sound (sound : Sound ttl traffic) (moment : Instant) :
    Sound ttl
      (traffic.withResolver (traffic.resolver.withCache (traffic.cache.sweep moment))) := by
  refine ⟨?_, sound.trails, ?_, ?_, sound.answers⟩
  · exact (Cache.sweep_ttl _ _).trans sound.ttl_eq
  · intro whole
    change (traffic.cache.sweep moment).broken = false at whole
    rw [Cache.sweep_broken] at whole
    intro caller stage inFlight
    change stage.lookup.generation ≤ (traffic.cache.sweep moment).generation ∧
      (stage.lookup.generation = (traffic.cache.sweep moment).generation → _)
    rw [Cache.sweep_generation]
    exact sound.current whole caller stage inFlight
  · intro whole name held member
    change (traffic.cache.sweep moment).broken = false at whole
    rw [Cache.sweep_broken] at whole
    exact sound.entries whole name held (Cache.mem_sweep _ _ _ member)

theorem step_sound (sound : Sound ttl traffic) (act : Act) :
    Sound ttl (traffic.step act) := by
  cases act with
  | look name => exact look_sound sound name
  | ask caller =>
      simp only [step]
      split
      · rename_i lookup missed
        exact ask_sound sound caller lookup missed
      · exact sound
  | deliver caller answer =>
      simp only [step]
      split
      · rename_i lookup fetching
        exact deliver_sound sound caller lookup answer fetching
      · exact sound
  | settle caller =>
      simp only [step]
      split
      · rename_i lookup answer since fetched
        exact settle_sound sound caller lookup answer since fetched
      · exact sound
  | giveUp caller =>
      simp only [step]
      split
      · exact (sound.note _ rfl (by simp)).finished caller
      · exact sound
  | clear => exact clear_sound sound
  | sweep moment => exact sweep_sound sound moment
  | elapse span => exact sound.congr _ rfl rfl rfl

/-! Callers are numbered, so a caller resolves one name, and the vault is asked for no empty one. -/

structure Orderly (traffic : Traffic) : Prop where
  below : ∀ begun ∈ traffic.history.resolves, begun.1 < traffic.callers
  once : (traffic.history.resolves.map Prod.fst).Nodup
  named : ∀ caller stage, traffic.stages caller = some stage → stage.lookup.name ≠ ""
  asked : ∀ record ∈ traffic.history, ∀ caller, record.what ≠ .asked caller ""

theorem Orderly.withResolver (orderly : Orderly traffic) (resolver : Resolver) :
    Orderly (traffic.withResolver resolver) :=
  ⟨orderly.below, orderly.once, orderly.named, orderly.asked⟩

theorem Orderly.note (orderly : Orderly traffic) (what : Happening) (begun : what.resolve? = none)
    (named : ∀ caller, what ≠ .asked caller "") : Orderly (traffic.note what) := by
  have same : (traffic.note what).history.resolves = traffic.history.resolves := by
    simp [Traffic.note, History.resolves, begun]
  refine ⟨?_, ?_, orderly.named, ?_⟩
  · rw [same]
    exact orderly.below
  · rw [same]
    exact orderly.once
  · intro record member
    rcases List.mem_cons.mp member with rfl | earlier
    · exact named
    · exact orderly.asked record earlier

theorem Orderly.advance (orderly : Orderly traffic) (caller : Nat) (next : Option Stage)
    (named : ∀ stage, next = some stage → stage.lookup.name ≠ "") :
    Orderly (traffic.advance caller next) where
  below := orderly.below
  once := orderly.once
  asked := orderly.asked
  named other stage inFlight := by
    by_cases same : other = caller
    · subst other
      exact named stage (by simpa [Traffic.advance] using inFlight)
    · exact orderly.named other stage (by simpa [Traffic.advance, same] using inFlight)

theorem look_orderly (orderly : Orderly traffic) (name : String) :
    Orderly (traffic.look name) := by
  let opened : Traffic := { traffic with
    resolver := (traffic.resolver.begin name traffic.now).1
    callers := traffic.callers + 1 }
  have begun : Orderly (opened.note (.looked traffic.callers name)) := by
    refine ⟨?_, ?_, orderly.named, ?_⟩
    · intro entry member
      rcases List.mem_cons.mp member with rfl | earlier
      · exact Nat.lt_succ_self _
      · exact Nat.lt_succ_of_lt (orderly.below entry earlier)
    · refine List.nodup_cons.mpr ⟨?_, orderly.once⟩
      intro again
      obtain ⟨entry, member, same⟩ := List.mem_map.mp again
      exact absurd (orderly.below entry member) (same ▸ Nat.lt_irrefl _)
    · intro record member
      rcases List.mem_cons.mp member with rfl | earlier
      · simp
      · exact orderly.asked record earlier
  rcases traffic.resolver.begin_cases name traffic.now with
    ⟨_, answered⟩ | ⟨value, _, answered⟩ | ⟨filled, fetching⟩
  · simp only [look, answered]
    exact begun.note _ rfl (by simp)
  · simp only [look, answered]
    exact begun.note _ rfl (by simp)
  · simp only [look, fetching]
    refine begun.advance _ _ ?_
    intro stage isMissed
    obtain rfl := Option.some.inj isMissed
    exact filled

theorem step_orderly (orderly : Orderly traffic) (act : Act) : Orderly (traffic.step act) := by
  cases act with
  | look name => exact look_orderly orderly name
  | ask caller =>
      simp only [step]
      split
      · rename_i lookup missed
        have filled := orderly.named caller _ missed
        refine (orderly.note _ rfl ?_).advance _ _ ?_
        · intro other same
          exact filled (Happening.asked.inj same).2
        · intro stage isFetching
          obtain rfl := Option.some.inj isFetching
          exact filled
      · exact orderly
  | deliver caller answer =>
      simp only [step]
      split
      · rename_i lookup fetching
        refine (orderly.note _ rfl (by simp)).advance _ _ ?_
        intro stage isFetched
        obtain rfl := Option.some.inj isFetched
        exact orderly.named caller (.fetching lookup) fetching
      · exact orderly
  | settle caller =>
      simp only [step]
      split
      · refine ((orderly.withResolver _).note _ ?_ ?_).advance _ _ (by simp)
        · exact Happening.ending_resolve _ _
        · exact fun other => Happening.ending_ne_asked _ _ _ _
      · exact orderly
  | giveUp caller =>
      simp only [step]
      split
      · exact (orderly.note _ rfl (by simp)).advance _ _ (by simp)
      · exact orderly
  | clear => exact (orderly.withResolver _).note .cleared rfl (by simp)
  | sweep moment => exact orderly.withResolver _
  | elapse span => exact ⟨orderly.below, orderly.once, orderly.named, orderly.asked⟩

theorem run_sound (ttl : Span) (now : Instant) (acts : List Act) :
    Sound ttl (run ttl now acts) :=
  List.foldlRecOn acts (step) (start_sound ttl now) fun _ sound act _ =>
    step_sound sound act

theorem run_orderly (ttl : Span) (now : Instant) (acts : List Act) :
    Orderly (run ttl now acts) := by
  refine List.foldlRecOn acts (step) ?_ fun _ orderly act _ => step_orderly orderly act
  refine ⟨?_, ?_, ?_, ?_⟩ <;> simp [start, History.resolves]

theorem looked_resolves {history : History} (looked : Instant) {caller : Nat} {name : String}
    (member : ⟨looked, .looked caller name⟩ ∈ history) : (caller, name) ∈ history.resolves :=
  List.mem_filterMap.mpr ⟨_, member, rfl⟩

theorem grounded_resolves {moment : Instant} {caller : Nat} {name : String} {value : Secret}
    {before : History} (grounded : Grounded ttl moment caller name value before) :
    (caller, name) ∈ before.resolves := by
  obtain ⟨answered, looked, asked, inside⟩ | ⟨fetcher, stored, earlier, rfl, _⟩ := grounded
  · exact looked_resolves looked (inside.subset (by simp))
  · exact looked_resolves moment List.mem_cons_self

theorem Orderly.one_name (orderly : Orderly traffic) {caller : Nat} {name other : String}
    (begun : (caller, name) ∈ traffic.history.resolves)
    (again : (caller, other) ∈ traffic.history.resolves) : other = name :=
  congrArg Prod.snd (List.inj_on_of_nodup_map orderly.once again begun rfl)

/-- A lookup that looked at the cache before the last clear writes nothing back. -/
theorem outlived_settle (sound : Sound ttl traffic) (caller : Nat) (lookup : Lookup)
    (answer : Answer Secret) (since : Instant)
    (fetched : traffic.stages caller = some (.fetched lookup answer since))
    (outlived : ∀ looked, ⟨looked, .looked caller lookup.name⟩ ∉ traffic.history.sinceClear) :
    (traffic.settle caller lookup answer).cache.entries = traffic.cache.entries := by
  cases answer with
  | error error => rfl
  | ok value =>
      change (traffic.resolver.finish lookup (.ok value) traffic.now).1.cache.entries = _
      rcases traffic.resolver.finish_value lookup value traffic.now with
        ⟨same, _⟩ | ⟨whole, current, _, _⟩ | ⟨broken, _⟩
      · rw [same]
        rfl
      · obtain ⟨looked, asked, inside⟩ := (sound.current whole caller _ fetched).2 current.symm
        exact absurd (inside.subset (by simp)) (outlived looked)
      · rw [broken]
        rfl

/-- In every run, and wherever a value is returned in its history: the caller resolved one name,
and the value is what its own lookup of that name brought, or what a lookup of the same name that
was begun after the last clear before the caller's look at the cache has stored less than a lifetime
ago. What is stored expires a lifetime after its write-back and stems from lookups that were begun
after the last clear; a lookup that was in flight across one, a failed one and one that was given up
store nothing; and the empty name is answered without asking the vault. -/
theorem values_have_origins (ttl : Span) (now : Instant) (acts : List Act) :
    let traffic := run ttl now acts
    (∀ later moment caller value before,
      traffic.history = later ++ ⟨moment, .returned caller (.ok value)⟩ :: before →
        ∃ name, (∀ other, (caller, other) ∈ traffic.history.resolves ↔ other = name) ∧
          Grounded ttl moment caller name value before) ∧
      (traffic.cache.broken = false → ∀ name held, (name, held) ∈ traffic.cache.entries →
        ∃ fetcher stored, Stored fetcher name held.value stored traffic.history.sinceClear ∧
          held.expiry = stored + ttl.total) ∧
      (∀ caller lookup answer since,
        traffic.stages caller = some (.fetched lookup answer since) →
          (∀ looked, ⟨looked, .looked caller lookup.name⟩ ∉ traffic.history.sinceClear) →
            (traffic.step (.settle caller)).cache.entries = traffic.cache.entries) ∧
      (∀ caller lookup error since,
        traffic.stages caller = some (.fetched lookup (.error error) since) →
          (traffic.step (.settle caller)).cache = traffic.cache) ∧
      (∀ caller, (traffic.step (.giveUp caller)).cache = traffic.cache) ∧
      (traffic.step (.look "")).cache = traffic.cache ∧
      (traffic.step (.look "")).stages = traffic.stages ∧
      (traffic.step (.look "")).history =
        ⟨traffic.now, .returned traffic.callers
          (.error (.invalidInput "secret name cannot be empty"))⟩ ::
        ⟨traffic.now, .looked traffic.callers ""⟩ :: traffic.history ∧
      ∀ moment caller, ⟨moment, .asked caller ""⟩ ∉ traffic.history := by
  intro traffic
  have sound : Sound ttl traffic := run_sound ttl now acts
  have orderly : Orderly traffic := run_orderly ttl now acts
  have emptyLook : traffic.step (.look "") =
      (({ traffic with callers := traffic.callers + 1 } : Traffic).note
        (.looked traffic.callers "")).note
          (.returned traffic.callers (.error Resolver.emptyName)) := by
    simp [step, look, Resolver.begin_empty]
  refine ⟨?_, sound.entries, ?_, ?_, ?_, ?_, ?_, ?_, ?_⟩
  · intro later moment caller value before same
    obtain ⟨name, grounded⟩ := sound.answers later moment caller value before same
    refine ⟨name, ?_, grounded⟩
    have kept : List.Sublist before traffic.history := by
      rw [same]
      exact (List.sublist_cons_self _ _).trans (List.sublist_append_right _ _)
    have begun : (caller, name) ∈ traffic.history.resolves :=
      (kept.filterMap _).subset (grounded_resolves grounded)
    exact fun other => ⟨orderly.one_name begun, fun isName => isName ▸ begun⟩
  · intro caller lookup answer since fetched outlived
    simp only [step, fetched]
    exact outlived_settle sound caller lookup answer since fetched outlived
  · intro caller lookup error since fetched
    simp only [step, fetched]
    rfl
  · intro caller
    simp only [step]
    split <;> rfl
  · rw [emptyLook]
    rfl
  · rw [emptyLook]
    rfl
  · rw [emptyLook]
    rfl
  · exact fun moment caller member => orderly.asked _ member caller rfl

/-- A value is written back some time after the vault has answered, and served later on. -/
def lateWriteBack : List Act :=
  [.look "A", .ask 0, .deliver 0 (.ok ⟨"v"⟩), .elapse 600000000, .settle 0, .elapse 600000000,
    .look "A"]

/-- What happened before the value was served. -/
def beforeServing : History :=
  [⟨1200000000, .looked 1 "A"⟩, ⟨600000000, .returned 0 (.ok ⟨"v"⟩)⟩,
    ⟨0, .delivered 0 (.ok ⟨"v"⟩)⟩, ⟨0, .asked 0 "A"⟩, ⟨0, .looked 0 "A"⟩]

theorem late_write_back_history : (run (.ofSeconds 1) 0 lateWriteBack).history =
    ⟨1200000000, .returned 1 (.ok ⟨"v"⟩)⟩ :: beforeServing := rfl

/-- The value is served within a lifetime of its write-back. -/
theorem late_write_back_served :
    ∃ (fetcher : Nat) (stored : Instant) (earlier : History),
      beforeServing = ⟨1200000000, .looked 1 "A"⟩ :: earlier ∧
        Stored fetcher "A" ⟨"v"⟩ stored earlier.sinceClear ∧
          1200000000 < stored + (Span.ofSeconds 1).total := by
  obtain ⟨name, resolves, grounded⟩ := (values_have_origins (.ofSeconds 1) 0 lateWriteBack).1
    [] 1200000000 1 ⟨"v"⟩ beforeServing late_write_back_history
  obtain rfl : "A" = name := (resolves "A").mp (by
    rw [late_write_back_history]
    exact List.mem_cons_self)
  -- The caller has asked for nothing itself.
  rcases grounded with ⟨answered, looked, asked, inside⟩ | found
  · have delivered := inside.subset List.mem_cons_self
    simp [beforeServing] at delivered
  · exact found

/-- Whatever is served was brought by a lookup of the caller's own or answered by the vault less
than a lifetime ago. -/
def ServedInTime (ttl : Span) (history : History) : Prop :=
  ∀ later moment caller value before,
    history = later ++ ⟨moment, .returned caller (.ok value)⟩ :: before →
      ∃ fetcher name answered, Fetched fetcher name value answered before ∧
        (fetcher = caller ∨ moment < answered + ttl.total)

/-- The vault's answer may be older than a lifetime when its value is served. -/
theorem late_write_back_outlives :
    ¬ ServedInTime (.ofSeconds 1) (run (.ofSeconds 1) 0 lateWriteBack).history := by
  intro inTime
  obtain ⟨fetcher, name, answered, ⟨looked, asked, inside⟩, own | young⟩ :=
    inTime [] 1200000000 1 ⟨"v"⟩ beforeServing late_write_back_history
  all_goals
    have delivered := inside.subset List.mem_cons_self
    simp [beforeServing] at delivered
    obtain ⟨rfl, rfl⟩ := delivered
  · cases own
  · exact absurd young (by decide)

end Traffic
end SecretBroker
