import SecretBroker.Cache

/-!
What each operation does to the entries of a cache, and what a hit tells about them. A broken
cache keeps its entries but serves none of them, so most of what is known of an entry is known
of a cache that is not broken.
-/

namespace SecretBroker.Cache

theorem entry_mem (cache : Cache) (name : String) (held : Cached)
    (found : cache.entry? name = some held) : (name, held) ∈ cache.entries := by
  unfold entry? at found
  obtain ⟨entry, first, same⟩ := Option.map_eq_some_iff.mp found
  have named : entry.1 = name := by simpa using List.find?_some first
  have member := List.mem_of_find?_eq_some first
  rw [← named, ← same]
  exact member

theorem read_hit (cache : Cache) (name : String) (now : Instant) (value : Secret)
    (hit : cache.read name now = .hit value) :
    cache.broken = false ∧
      ∃ held, (name, held) ∈ cache.entries ∧ held.value = value ∧ now < held.expiry := by
  unfold read at hit
  split at hit
  · cases hit
  · rename_i working
    have whole : cache.broken = false := by
      cases broken : cache.broken
      · rfl
      · simp [broken] at working
    refine ⟨whole, ?_⟩
    split at hit
    · rename_i held found
      by_cases expired : held.isExpired now = true
      · simp [expired] at hit
      · simp only [expired, Bool.false_eq_true, ↓reduceIte, Reading.hit.injEq] at hit
        refine ⟨held, entry_mem cache name held found, hit, ?_⟩
        simpa [Cached.isExpired] using expired
    · cases hit

theorem mem_insert (cache : Cache) (name other : String) (held entry : Cached) :
    (other, entry) ∈ (cache.insert name held).entries ↔
      (other = name ∧ entry = held) ∨ (other ≠ name ∧ (other, entry) ∈ cache.entries) := by
  simp [insert, and_comm]

theorem store_cases (cache : Cache) (name : String) (value : Secret) (now : Instant) :
    cache.store name value now = (cache.insert name ⟨value, now + cache.ttl.total⟩, .stored) ∨
      cache.store name value now = ({ cache with broken := true }, .failed) := by
  unfold store
  split
  · rename_i expiry reached
    rw [Instant.after_eq_some reached]
    exact Or.inl rfl
  · exact Or.inr rfl

/-- A conditional write is skipped and changes nothing, or it finds the cache whole and in the
generation that the writer noted, and stores its value or breaks the cache. -/
theorem putIfCurrent_cases (cache : Cache) (name : String) (value : Secret) (generation : Nat)
    (now : Instant) :
    cache.putIfCurrent name value generation now = (cache, .skipped) ∨
      (cache.broken = false ∧ cache.generation = generation ∧
        (cache.putIfCurrent name value generation now =
            (cache.insert name ⟨value, now + cache.ttl.total⟩, .stored) ∨
          cache.putIfCurrent name value generation now =
            ({ cache with broken := true }, .failed))) := by
  unfold putIfCurrent
  split
  · exact Or.inl rfl
  · rename_i current
    simp only [Bool.or_eq_true, decide_eq_true_eq, not_or, Bool.not_eq_true, Decidable.not_not]
      at current
    exact Or.inr ⟨current.1.2, by simpa using current.2, store_cases cache name value now⟩

theorem clear_cases (cache : Cache) :
    (cache.broken = true ∧ cache.clear = (cache, 0)) ∨
      (cache.broken = false ∧ cache.clear =
        ({ cache with entries := [], generation := cache.generation + 1 },
          cache.entries.length)) := by
  unfold clear size
  cases broken : cache.broken <;> simp

theorem clear_ttl (cache : Cache) : cache.clear.1.ttl = cache.ttl := by
  rcases cache.clear_cases with ⟨_, cleared⟩ | ⟨_, cleared⟩
  · rw [cleared]
  · rw [cleared]

theorem clear_broken (cache : Cache) : cache.clear.1.broken = cache.broken := by
  rcases cache.clear_cases with ⟨_, cleared⟩ | ⟨_, cleared⟩
  · rw [cleared]
  · rw [cleared]

theorem sweep_broken (cache : Cache) (now : Instant) :
    (cache.sweep now).broken = cache.broken := by
  unfold sweep
  split <;> rfl

theorem sweep_generation (cache : Cache) (now : Instant) :
    (cache.sweep now).generation = cache.generation := by
  unfold sweep
  split <;> rfl

theorem sweep_ttl (cache : Cache) (now : Instant) : (cache.sweep now).ttl = cache.ttl := by
  unfold sweep
  split <;> rfl

theorem enabled_iff (cache : Cache) : cache.isEnabled = true ↔ 0 < cache.ttl.total := by
  simp only [isEnabled, Span.isZero, Span.total, nanosPerSecond, Bool.not_eq_true',
    Bool.and_eq_false_iff, beq_eq_false_iff_ne]
  omega

theorem read_off_iff (cache : Cache) (name : String) (now : Instant) :
    cache.read name now = .off ↔ ¬ 0 < cache.ttl.total ∨ cache.broken = true := by
  rw [← cache.enabled_iff, Bool.not_eq_true]
  constructor
  · intro off
    cases enabled : cache.isEnabled with
    | false => exact Or.inl rfl
    | true =>
        cases broken : cache.broken with
        | true => exact Or.inr rfl
        | false =>
            simp only [read, enabled, broken, Bool.not_true, Bool.or_self, Bool.false_eq_true,
              ↓reduceIte] at off
            repeat' split at off
            all_goals cases off
  · rintro (disabled | broken)
    · simp [read, disabled]
    · simp [read, broken]

theorem read_on {cache : Cache} {name : String} {now : Instant}
    (on : cache.read name now ≠ .off) : 0 < cache.ttl.total ∧ cache.broken = false := by
  rw [Ne, read_off_iff, not_or, Decidable.not_not, Bool.not_eq_true] at on
  exact on

theorem put_whole (cache : Cache) (name : String) (value : Secret) (now : Instant)
    (whole : cache.broken = false) :
    cache.put name value now =
      if 0 < cache.ttl.total then cache.store name value now else (cache, .skipped) := by
  by_cases enabled : cache.isEnabled = true
  · simp [put, enabled, whole, cache.enabled_iff.mp enabled]
  · have lifeless : ¬ 0 < cache.ttl.total := fun life => enabled (cache.enabled_iff.mpr life)
    simp [put, enabled, lifeless]

theorem putIfCurrent_eq (cache : Cache) (name : String) (value : Secret) (generation : Nat)
    (now : Instant) : cache.putIfCurrent name value generation now =
      if cache.generation = generation then cache.put name value now else (cache, .skipped) := by
  by_cases current : cache.generation = generation
  · simp [putIfCurrent, put, current]
  · simp [putIfCurrent, current]

/-- A write that can tell when its entry expires stores it. -/
theorem store_reached (cache : Cache) (name : String) (value : Secret) (now : Instant)
    (reached : (Instant.after now cache.ttl).isSome = true) :
    cache.store name value now = (cache.insert name ⟨value, now + cache.ttl.total⟩, .stored) := by
  obtain ⟨expiry, later⟩ := Option.isSome_iff_exists.mp reached
  simp [store, later, Instant.after_eq_some later]

/-! What a read finds after each operation. Names are stored once, so what a sweep takes uncovers
no older entry. -/

/-- No name has two entries. -/
def Distinct (cache : Cache) : Prop := (cache.entries.map Prod.fst).Nodup

theorem get_idle (cache : Cache) (name : String) (now : Instant)
    (idle : cache.isEnabled = false ∨ cache.broken = true) : cache.get name now = none := by
  rcases idle with disabled | broken
  · simp [get, read, disabled, Reading.value?]
  · simp [get, read, broken, Reading.value?]

theorem get_working (cache : Cache) (name : String) (now : Instant)
    (enabled : cache.isEnabled = true) (whole : cache.broken = false) (found : Option Cached)
    (entry : cache.entry? name = found) :
    cache.get name now = (found.filter fun held => !held.isExpired now).map (·.value) := by
  simp only [get, read, enabled, whole, entry, Bool.not_true, Bool.or_self, Bool.false_eq_true,
    ↓reduceIte]
  cases found with
  | none => rfl
  | some held =>
      cases expired : held.isExpired now <;>
        simp [expired, Option.filter_some, Reading.value?]

/-- Reads look at the settings and the entry of their name only. -/
theorem get_congr (cache other : Cache) (name : String) (now : Instant)
    (sameTtl : other.ttl = cache.ttl) (sameBroken : other.broken = cache.broken)
    (sameEntry : other.entry? name = cache.entry? name) :
    other.get name now = cache.get name now := by
  unfold get read isEnabled
  rw [sameTtl, sameBroken, sameEntry]

theorem entry_insert (cache : Cache) (name other : String) (held : Cached) :
    Cache.entry? (cache.insert name held) other =
      if other = name then some held else cache.entry? other := by
  by_cases same : other = name
  · simp [insert, entry?, same]
  · have passed : name ≠ other := fun again => same again.symm
    have kept : ∀ entry : String × Cached,
        (entry.1 ≠ name ∧ entry.1 = other) ↔ entry.1 = other := by
      intro entry
      constructor
      · exact And.right
      · rintro rfl
        exact ⟨same, rfl⟩
    rw [if_neg same]
    unfold insert entry?
    rw [List.find?_cons_of_neg (by simpa using passed), List.find?_filter]
    simp only [decide_eq_true_eq, kept]

theorem get_insert_self (cache : Cache) (name : String) (held : Cached) (now : Instant)
    (enabled : cache.isEnabled = true) (whole : cache.broken = false) (value : Secret) :
    (cache.insert name held).get name now = some value ↔
      held.value = value ∧ now < held.expiry := by
  have entry := cache.entry_insert name name held
  rw [if_pos rfl] at entry
  rw [get_working (cache.insert name held) name now enabled whole _ entry]
  by_cases expired : held.expiry ≤ now
  · have late : ¬ now < held.expiry := Nat.not_lt_of_le expired
    simp [Option.filter_some, Cached.isExpired, expired, late]
  · have early : now < held.expiry := Nat.lt_of_not_le expired
    simp [Option.filter_some, Cached.isExpired, expired, early]

theorem get_insert_other (cache : Cache) (name other : String) (held : Cached) (now : Instant)
    (differs : other ≠ name) : (cache.insert name held).get other now = cache.get other now := by
  apply get_congr cache (cache.insert name held) other now rfl rfl
  rw [entry_insert, if_neg differs]

theorem insert_distinct (cache : Cache) (name : String) (held : Cached)
    (distinct : cache.Distinct) : (cache.insert name held).Distinct := by
  have kept : ((cache.entries.filter (·.1 ≠ name)).map Prod.fst).Nodup :=
    distinct.sublist (List.filter_sublist.map Prod.fst)
  have absent : name ∉ (cache.entries.filter (·.1 ≠ name)).map Prod.fst := by simp
  exact List.nodup_cons.mpr ⟨absent, kept⟩

theorem sweep_distinct (cache : Cache) (now : Instant) (distinct : cache.Distinct) :
    (cache.sweep now).Distinct := by
  unfold sweep
  split
  · exact distinct
  · exact distinct.sublist (List.filter_sublist.map Prod.fst)

/-- Of entries with names of their own, a filter keeps the one of a name if it keeps it at all. -/
theorem find_filter (entries : List (String × Cached)) (keep : Cached → Bool) (name : String)
    (distinct : (entries.map Prod.fst).Nodup) :
    ((entries.filter fun held => keep held.2).find? (·.1 = name)).map (·.2) =
      ((entries.find? (·.1 = name)).map (·.2)).filter keep := by
  induction entries with
  | nil => rfl
  | cons entry rest ih =>
      have tail := ih (List.nodup_cons.mp distinct).2
      have absent := (List.nodup_cons.mp distinct).1
      by_cases named : entry.1 = name
      · by_cases kept : keep entry.2 = true
        · simp [named, kept, Option.filter_some]
        · -- The entry goes, and no other one has its name.
          have gone : rest.find? (·.1 = name) = none := by
            apply List.find?_eq_none.mpr
            intro other member same
            apply absent
            rw [named, ← of_decide_eq_true same]
            exact List.mem_map_of_mem member
          have dropped : (entry :: rest).filter (fun held => keep held.2) =
              rest.filter fun held => keep held.2 := List.filter_cons_of_neg kept
          rw [dropped, tail, gone]
          simp [named, kept, Option.filter_some]
      · by_cases kept : keep entry.2 = true
        · simpa [named, kept] using tail
        · simpa [named, kept] using tail

theorem entry_sweep (cache : Cache) (name : String) (swept : Instant) (distinct : cache.Distinct)
    (whole : cache.broken = false) (found : Option Cached) (entry : cache.entry? name = found) :
    Cache.entry? (cache.sweep swept) name = found.filter fun held => !held.isExpired swept := by
  rw [← entry]
  simp only [sweep, whole, Bool.false_eq_true, ↓reduceIte, entry?]
  exact find_filter cache.entries (fun held => !held.isExpired swept) name distinct

/-- A sweep changes no answer from its instant on. -/
theorem get_sweep (cache : Cache) (name : String) (swept now : Instant) (distinct : cache.Distinct)
    (order : swept ≤ now) : (cache.sweep swept).get name now = cache.get name now := by
  have sameEnabled : (cache.sweep swept).isEnabled = cache.isEnabled := by
    rw [isEnabled, isEnabled, sweep_ttl]
  have sameBroken := cache.sweep_broken swept
  cases broken : cache.broken with
  | true =>
      rw [broken] at sameBroken
      rw [get_idle _ _ _ (Or.inr sameBroken), get_idle _ _ _ (Or.inr broken)]
  | false =>
    rw [broken] at sameBroken
    cases enabled : cache.isEnabled with
    | false =>
        rw [enabled] at sameEnabled
        rw [get_idle _ _ _ (Or.inl sameEnabled), get_idle _ _ _ (Or.inl enabled)]
    | true =>
        rw [enabled] at sameEnabled
        cases entry : cache.entry? name with
        | none =>
            have gone := cache.entry_sweep name swept distinct broken _ entry
            rw [get_working _ _ _ sameEnabled sameBroken _ gone,
              get_working _ _ _ enabled broken _ entry]
            rfl
        | some held =>
            have kept := cache.entry_sweep name swept distinct broken _ entry
            rw [get_working _ _ _ sameEnabled sameBroken _ kept,
              get_working _ _ _ enabled broken _ entry]
            -- What had expired at the sweep has expired at the read.
            by_cases early : held.expiry ≤ swept
            · have late : held.expiry ≤ now := Nat.le_trans early order
              simp [Option.filter_some, Cached.isExpired, early, late]
            · simp [Option.filter_some, Cached.isExpired, early]

theorem mem_sweep (cache : Cache) (now : Instant) (entry : String × Cached)
    (kept : entry ∈ (cache.sweep now).entries) : entry ∈ cache.entries := by
  unfold sweep at kept
  split at kept
  · exact kept
  · exact (List.mem_filter.mp kept).1

end SecretBroker.Cache
