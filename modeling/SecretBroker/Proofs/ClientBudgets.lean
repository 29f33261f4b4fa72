import SecretBroker.Proofs.BucketLevels

/-!
Runs of checks for any number of keys, in exact arithmetic. A key is told what it would be told if
nobody else were there, also where buckets are forgotten to make room for others, and a check that
was refused might as well not have been made.
-/

namespace SecretBroker.RateLimit

structure Check where
  key : String
  moment : Instant
  deriving DecidableEq, Repr

/-- A run of checks, each with what it was told. -/
def Limiter.answers {R : Type} [Quantity R] (limiter : Limiter R) :
    List Check → List (Check × Verdict)
  | [] => []
  | check :: rest =>
    (check, (limiter.check check.key check.moment).2) ::
      (limiter.check check.key check.moment).1.answers rest

/-- A list without some of the elements that may go. -/
inductive Thinned {α : Type} (mayGo : α → Prop) : List α → List α → Prop where
  | nil : Thinned mayGo [] []
  | keep (element : α) {all kept : List α} :
    Thinned mayGo all kept → Thinned mayGo (element :: all) (element :: kept)
  | drop {element : α} {all kept : List α} (going : mayGo element) :
    Thinned mayGo all kept → Thinned mayGo (element :: all) kept

/-- Two limiters that hold the same for a key from an instant on. -/
structure Alike (key : String) (now : Instant) (one other : Limiter Rat) : Prop where
  policy : one.policy = other.policy
  oneSettled : one.Settled now
  otherSettled : other.Settled now
  levels : ∀ later, now ≤ later → one.level key later = other.level key later

namespace Alike

variable {key : String} {now : Instant} {one other : Limiter Rat}

theorem start (policy : Policy) (key : String) (now : Instant) :
    Alike key now (.new policy) (.new policy) where
  policy := rfl
  oneSettled := Limiter.new_settled policy now
  otherSettled := Limiter.new_settled policy now
  levels _ _ := rfl

theorem mono (alike : Alike key now one other) {later : Instant} (order : now ≤ later) :
    Alike key later one other where
  policy := alike.policy
  oneSettled := alike.oneSettled.mono order
  otherSettled := alike.otherSettled.mono order
  levels moment after := alike.levels moment (order.trans after)

theorem verdict (alike : Alike key now one other) :
    (one.check key now).2 = (other.check key now).2 := by
  rw [Limiter.check_verdict alike.oneSettled, Limiter.check_verdict alike.otherSettled,
    alike.policy, alike.levels now le_rfl]

/-- One of the two is asked about a key that it then holds no less for, or about another key. -/
theorem aside (alike : Alike key now one other) (asked : String)
    (spared : asked ≠ key ∨ (one.check asked now).2 ≠ .granted) :
    Alike key now (one.check asked now).1 other where
  policy := Limiter.check_policy.trans alike.policy
  oneSettled := Limiter.check_settled alike.oneSettled
  otherSettled := alike.otherSettled
  levels later order := by
    rcases spared with differs | refused
    · rw [Limiter.level_check_other alike.oneSettled order differs.symm]
      exact alike.levels later order
    · rw [Limiter.level_check_refused alike.oneSettled order refused]
      exact alike.levels later order

theorem symm (alike : Alike key now one other) : Alike key now other one where
  policy := alike.policy.symm
  oneSettled := alike.otherSettled
  otherSettled := alike.oneSettled
  levels later order := (alike.levels later order).symm

/-- Both are asked about one key. -/
theorem both (alike : Alike key now one other) (asked : String) :
    Alike key now (one.check asked now).1 (other.check asked now).1 := by
  by_cases same : asked = key
  · subst asked
    constructor
    · exact (Limiter.check_policy.trans alike.policy).trans Limiter.check_policy.symm
    · exact Limiter.check_settled alike.oneSettled
    · exact Limiter.check_settled alike.otherSettled
    · intro later _
      rw [Limiter.level_check_same alike.oneSettled, Limiter.level_check_same alike.otherSettled,
        alike.policy, alike.levels now le_rfl]
  · exact ((alike.aside asked (Or.inl same)).symm.aside asked (Or.inl same)).symm

end Alike

namespace Limiter

theorem answers_of_key {key : String} (checks : List Check) {now : Instant}
    {one other : Limiter Rat} (alike : Alike key now one other)
    (ordered : checks.Pairwise (·.moment ≤ ·.moment))
    (ahead : ∀ check ∈ checks, now ≤ check.moment) :
    (one.answers checks).filter (·.1.key = key) =
      other.answers (checks.filter (·.key = key)) := by
  induction checks generalizing now one other with
  | nil => rfl
  | cons check rest ih =>
      obtain ⟨first, restOrdered⟩ := List.pairwise_cons.mp ordered
      have reached := alike.mono (ahead check List.mem_cons_self)
      -- The other run has a check of the key as well, and none of another key.
      by_cases same : check.key = key
      · have again := ih (reached.both check.key) restOrdered first
        subst same
        have told := reached.verdict
        simp only [answers, decide_true, List.filter_cons_of_pos, told, again]
      · have again := ih (reached.aside check.key (Or.inl same)) restOrdered first
        rw [List.filter_cons_of_neg (by simpa using same)]
        rw [answers, List.filter_cons_of_neg (by simpa using same)]
        exact again

theorem answers_thinned (checks : List Check) {now : Instant} {one other : Limiter Rat}
    (alike : ∀ key, Alike key now one other) (ordered : checks.Pairwise (·.moment ≤ ·.moment))
    (ahead : ∀ check ∈ checks, now ≤ check.moment) {kept : List (Check × Verdict)}
    (thinned : Thinned (fun answer => answer.2 ≠ .granted) (one.answers checks) kept) :
    other.answers (kept.map Prod.fst) = kept := by
  induction checks generalizing now one other kept with
  | nil =>
      cases thinned
      rfl
  | cons check rest ih =>
      obtain ⟨first, restOrdered⟩ := List.pairwise_cons.mp ordered
      have reached := fun key => (alike key).mono (ahead check List.mem_cons_self)
      cases thinned with
      | keep _ tail =>
          have again := ih (fun key => (reached key).both check.key) restOrdered first tail
          rw [List.map_cons, answers, again, (reached check.key).verdict]
      | drop refused tail =>
          -- The other limiter was not asked, and still holds the same for every key.
          have spared := fun key => (reached key).aside check.key (Or.inr refused)
          exact ih spared restOrdered first tail

end Limiter

/-- What a key is told depends on its own checks only, and leaving out any checks that were refused
changes no other answer. -/
theorem budgets_are_isolated (policy : Policy) (checks : List Check)
    (ordered : checks.Pairwise (·.moment ≤ ·.moment)) :
    (∀ key : String,
      ((Limiter.new policy : Limiter Rat).answers checks).filter (·.1.key = key) =
        (Limiter.new policy : Limiter Rat).answers (checks.filter (·.key = key))) ∧
    ∀ kept : List (Check × Verdict),
      Thinned (fun answer => answer.2 ≠ .granted)
        ((Limiter.new policy : Limiter Rat).answers checks) kept →
      (Limiter.new policy : Limiter Rat).answers (kept.map Prod.fst) = kept := by
  have ahead : ∀ check ∈ checks, 0 ≤ check.moment := fun _ _ => Nat.zero_le _
  constructor
  · intro key
    exact Limiter.answers_of_key checks (Alike.start policy key 0) ordered ahead
  · intro kept thinned
    exact Limiter.answers_thinned checks (fun key => Alike.start policy key 0) ordered ahead thinned

def oneAMinute : Limiter Rat := .new (.perMinute 1)

/-- The second check comes too early, and the third is another key's. -/
def hammering : List Check := [⟨"10.0.0.1", 0⟩, ⟨"10.0.0.1", 0⟩, ⟨"10.0.0.2", 0⟩]

theorem hammering_answers : oneAMinute.answers hammering =
    [(⟨"10.0.0.1", 0⟩, .granted), (⟨"10.0.0.1", 0⟩, .refused 60), (⟨"10.0.0.2", 0⟩, .granted)] := by
  have first : oneAMinute.Settled 0 := Limiter.new_settled _ 0
  have second : (oneAMinute.check "10.0.0.1" 0).1.Settled 0 := Limiter.check_settled first
  have third : ((oneAMinute.check "10.0.0.1" 0).1.check "10.0.0.1" 0).1.Settled 0 :=
    Limiter.check_settled second
  have others : "10.0.0.2" ≠ "10.0.0.1" := by decide
  simp only [hammering, Limiter.answers, Limiter.check_verdict first, Limiter.check_verdict second,
    Limiter.check_verdict third, Limiter.check_policy, Limiter.level_check_same first,
    Limiter.level_check_other second le_rfl others, Limiter.level_check_other first le_rfl others]
  simp only [oneAMinute, Limiter.level_new]
  decide +kernel

theorem hammering_changes_nothing :
    oneAMinute.answers [⟨"10.0.0.1", 0⟩, ⟨"10.0.0.2", 0⟩] =
      [(⟨"10.0.0.1", 0⟩, .granted), (⟨"10.0.0.2", 0⟩, .granted)] := by
  have isolated := budgets_are_isolated (.perMinute 1) hammering (by decide)
  have thinned : Thinned (fun answer => answer.2 ≠ .granted) (oneAMinute.answers hammering)
      [(⟨"10.0.0.1", 0⟩, .granted), (⟨"10.0.0.2", 0⟩, .granted)] := by
    rw [hammering_answers]
    exact .keep _ (.drop (by decide) (.keep _ .nil))
  exact isolated.2 _ thinned

end SecretBroker.RateLimit
