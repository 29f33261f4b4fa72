import SecretBroker.Proofs.CacheEntries
import SecretBroker.Resolver

/-!
What the two halves of a resolve do to the cache, and with what they answer.
-/

namespace SecretBroker.Resolver

theorem begin_cache (resolver : Resolver) (name : String) (now : Instant) :
    (resolver.begin name now).1.cache = resolver.cache := by
  unfold begin
  split <;> rfl

theorem begin_empty (resolver : Resolver) (now : Instant) :
    resolver.begin "" now = (resolver, .answered (.error emptyName)) := by
  simp [begin]

theorem begin_filled (resolver : Resolver) {name : String} (now : Instant) (filled : name ≠ "") :
    resolver.begin name now = (resolver.count (Counter.ofReading (resolver.cache.read name now)),
      match resolver.cache.read name now with
      | .hit value => .answered (.ok value)
      | .miss | .off => .fetching ⟨name, resolver.cache.generation⟩) := by
  have nonempty : name.isEmpty = false := by simpa using filled
  simp only [begin, nonempty]
  rfl

/-- A resolve is answered at once with the fault of an empty name or with what the cache has, and
goes on to the vault with the generation of the cache otherwise. -/
theorem begin_cases (resolver : Resolver) (name : String) (now : Instant) :
    (name = "" ∧ (resolver.begin name now).2 = .answered (.error emptyName)) ∨
      (∃ value, resolver.cache.read name now = .hit value ∧
        (resolver.begin name now).2 = .answered (.ok value)) ∨
      (name ≠ "" ∧
        (resolver.begin name now).2 = .fetching ⟨name, resolver.cache.generation⟩) := by
  by_cases empty : name = ""
  · subst name
    exact Or.inl ⟨rfl, by rw [begin_empty]⟩
  · have filled : name.isEmpty = false := by simpa using empty
    simp only [begin, filled, Bool.false_eq_true, ↓reduceIte]
    cases reading : resolver.cache.read name now with
    | hit value => exact Or.inr (Or.inl ⟨value, rfl, rfl⟩)
    | miss => exact Or.inr (Or.inr ⟨empty, rfl⟩)
    | off => exact Or.inr (Or.inr ⟨empty, rfl⟩)

/-- A value is answered and leaves the cache alone, or is stored there by a lookup of the current
generation, or breaks the cache and is not answered. -/
theorem finish_value (resolver : Resolver) (lookup : Lookup) (value : Secret) (now : Instant) :
    ((resolver.finish lookup (.ok value) now).1.cache = resolver.cache ∧
        (resolver.finish lookup (.ok value) now).2 = some (.ok value)) ∨
      (resolver.cache.broken = false ∧ resolver.cache.generation = lookup.generation ∧
        (resolver.finish lookup (.ok value) now).1.cache =
          resolver.cache.insert lookup.name ⟨value, now + resolver.cache.ttl.total⟩ ∧
        (resolver.finish lookup (.ok value) now).2 = some (.ok value)) ∨
      ((resolver.finish lookup (.ok value) now).1.cache = { resolver.cache with broken := true } ∧
        (resolver.finish lookup (.ok value) now).2 = none) := by
  have cached : (resolver.finish lookup (.ok value) now).1.cache =
      (resolver.cache.putIfCurrent lookup.name value lookup.generation now).1 := rfl
  have answered : (resolver.finish lookup (.ok value) now).2 =
      if (resolver.cache.putIfCurrent lookup.name value lookup.generation now).2 = .failed
      then none else some (.ok value) := rfl
  rw [cached, answered]
  rcases resolver.cache.putIfCurrent_cases lookup.name value lookup.generation now with
    skipped | ⟨whole, current, stored | failed⟩
  · rw [skipped]
    exact Or.inl ⟨rfl, rfl⟩
  · rw [stored]
    exact Or.inr (Or.inl ⟨whole, current, rfl, rfl⟩)
  · rw [failed]
    exact Or.inr (Or.inr ⟨rfl, rfl⟩)

theorem finish_answer (resolver : Resolver) (lookup : Lookup) (answer : Answer Secret)
    (now : Instant) (returned : Answer Secret)
    (settled : (resolver.finish lookup answer now).2 = some returned) : returned = answer := by
  cases answer with
  | error error => exact (Option.some.inj settled).symm
  | ok value =>
      rcases resolver.finish_value lookup value now with
        ⟨_, same⟩ | ⟨_, _, _, same⟩ | ⟨_, broken⟩
      · exact Option.some.inj (settled.symm.trans same)
      · exact Option.some.inj (settled.symm.trans same)
      · cases settled.symm.trans broken

end SecretBroker.Resolver
