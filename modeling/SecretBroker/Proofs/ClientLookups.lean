import SecretBroker.Cli.Lookup
import SecretBroker.Proofs.ClientPlay

/-!
What a lookup with the command line client does and what it comes to, whatever the client answers.
The exact lookup is followed by a search if it ended otherwise than with success, and by nothing if
it left no output. One of the two outputs has the entry whose value is taken.
-/

namespace SecretBroker.Cli

/-- A name that is good both as a name and as an argument. -/
def GoodName (name : String) : Prop := LookupName.fault? name = none ∧ Argument.fault? name = none

theorem lookupFault_eq_none {name : String} : lookupFault? name = none ↔ GoodName name := by
  simp only [lookupFault?, GoodName]
  cases LookupName.fault? name with
  | none => simp
  | some fault => simp

theorem lookupFault_input {name : String} {error : VaultError}
    (refused : lookupFault? name = some error) : ∃ reason, error = .invalidInput reason := by
  simp only [lookupFault?] at refused
  cases named : LookupName.fault? name with
  | some fault =>
      rw [named] at refused
      exact ⟨fault.reason, (Option.some.inj refused).symm⟩
  | none =>
      rw [named] at refused
      obtain ⟨fault, _, same⟩ := Option.map_eq_some_iff.mp refused
      exact ⟨fault.reason, same.symm⟩

theorem valueOf_ok {name : String} {entry : Entry} {value : Secret} :
    valueOf name entry = .ok value ↔ entry.clientValue = some value.reveal := by
  obtain ⟨text⟩ := value
  simp only [valueOf]
  cases entry.clientValue <;> simp

theorem valueOf_noValue {name : String} {entry : Entry} :
    valueOf name entry = .error (.noValue name) ↔ entry.clientValue = none := by
  simp only [valueOf]
  cases entry.clientValue <;> simp

theorem success_iff (output : Output) : output.success = true ↔ output.exit = some 0 := by
  rw [Output.success, beq_iff_eq]

theorem exactEntry_ok {output : Output} {entry : Entry} :
    exactEntry output = .ok entry ↔ Entry.read output.stdout = some entry := by
  simp only [exactEntry]
  cases Entry.read output.stdout <;> simp

theorem firstFound_ok {name : String} {output : Output} {entry : Entry} :
    firstFound name output = .ok entry ↔
      output.exit = some 0 ∧ ∃ rest, Entry.readList output.stdout = some (entry :: rest) := by
  rw [firstFound, ← success_iff]
  cases output.success with
  | false => simp
  | true =>
      cases Entry.readList output.stdout with
      | none => simp
      | some entries => cases entries <;> simp

/-- What can be done in a lookup, and the entry that it goes by, or why there is none. -/
inductive Course (name : String) (session : Secret) : List Doing → Answer Entry → Prop where
  | refused {error : VaultError} (bad : lookupFault? name = some error) :
    Course name session [] (.error error)
  | broken (good : GoodName name) (error : VaultError) :
    Course name session [.ran (.getItem name session) (.error error)] (.error error)
  | exact (good : GoodName name) {output : Output} (succeeded : output.exit = some 0) :
    Course name session [.ran (.getItem name session) (.ok output)] (exactEntry output)
  | unsearched (good : GoodName name) {output : Output} (failed : output.exit ≠ some 0)
    (error : VaultError) : Course name session [.ran (.getItem name session) (.ok output),
      .ran (.searchItems name session) (.error error)] (.error error)
  | searched (good : GoodName name) {output : Output} (failed : output.exit ≠ some 0)
    (found : Output) : Course name session [.ran (.getItem name session) (.ok output),
      .ran (.searchItems name session) (.ok found)] (firstFound name found)

variable {name : String} {session : Secret} {doings : List Doing} {answer : Answer Secret}

/-- The entry that one of the outputs has for a lookup. -/
inductive Selects (name : String) (session : Secret) (doings : List Doing) : Entry → Prop where
  | exact {output : Output} {entry : Entry} (ran : .ran (.getItem name session) (.ok output) ∈ doings)
    (succeeded : output.exit = some 0) (read : Entry.read output.stdout = some entry) :
    Selects name session doings entry
  | found {output : Output} {entry : Entry} {rest : List Entry}
    (ran : .ran (.searchItems name session) (.ok output) ∈ doings)
    (succeeded : output.exit = some 0) (read : Entry.readList output.stdout = some (entry :: rest)) :
    Selects name session doings entry

@[simp]
theorem getItem_ne_searchItems : Command.getItem name session ≠ .searchItems name session := by
  intro same
  have words := congrArg (fun command : Command => command.args.length) same
  cases words

@[simp]
theorem searchItems_ne_getItem : Command.searchItems name session ≠ .getItem name session :=
  getItem_ne_searchItems.symm

/-- What a lookup keeps to, for what was done and what it came to. -/
structure Looks (name : String) (session : Secret) (doings : List Doing) (answer : Answer Secret) :
    Prop where
  refused : ¬ GoodName name → doings = [] ∧ ∃ reason, answer = .error (.invalidInput reason)
  ordered : GoodName name → ∃ exact, doings = [.ran (.getItem name session) exact] ∨
    ∃ found, doings = [.ran (.getItem name session) exact, .ran (.searchItems name session) found]
  /-- The search follows exactly on an output with another exit code than 0, or with none. -/
  searched : ∀ exact, .ran (.getItem name session) exact ∈ doings →
    (.searchItems name session ∈ commandsOf doings ↔
      ∃ output, exact = .ok output ∧ output.exit ≠ some 0)
  answered : ∀ value, answer = .ok value ↔
    ∃ entry, Selects name session doings entry ∧ entry.clientValue = some value.reveal
  valueless : ∀ entry, Selects name session doings entry → entry.clientValue = none →
    answer = .error (.noValue name)
  unmatched : ∀ found, .ran (.searchItems name session) (.ok found) ∈ doings → found.exit = some 0 →
    Entry.readList found.stdout = some [] → answer = .error (.notFound name)
  exactUnreadable : ∀ output, .ran (.getItem name session) (.ok output) ∈ doings →
    output.exit = some 0 → Entry.read output.stdout = none →
      answer = .error (.invalidResponse "bw get output is not valid JSON")
  foundUnreadable : ∀ found, .ran (.searchItems name session) (.ok found) ∈ doings →
    found.exit = some 0 → Entry.readList found.stdout = none →
      answer = .error (.invalidResponse "bw list output is not valid JSON")
  failed : ∀ found, .ran (.searchItems name session) (.ok found) ∈ doings → found.exit ≠ some 0 →
    answer = .error (.transport ("bw list exited with code " ++ found.exitLabel))
  /-- The error of a run is passed on as it is. -/
  passedOn : ∀ command error, .ran command (.error error) ∈ doings → answer = .error error

namespace Course

variable {chosen : Answer Entry}

/-- The output of a search is there only if it decides. -/
theorem chosen_found (course : Course name session doings chosen) {found : Output}
    (ran : .ran (.searchItems name session) (.ok found) ∈ doings) :
    chosen = firstFound name found := by
  cases course with
  | refused bad => cases ran
  | broken | exact | unsearched => simp at ran
  | searched good failed other =>
      obtain rfl : found = other := by simpa using ran
      rfl

theorem chosen_exact (course : Course name session doings chosen) {output : Output}
    (ran : .ran (.getItem name session) (.ok output) ∈ doings) (succeeded : output.exit = some 0) :
    chosen = exactEntry output := by
  cases course with
  | refused bad => cases ran
  | broken => simp at ran
  | @exact good other exit =>
      obtain rfl : output = other := by simpa using ran
      rfl
  | @unsearched good other failed error =>
      obtain rfl : output = other := by simpa using ran
      exact absurd succeeded failed
  | @searched good other failed found =>
      obtain rfl : output = other := by simpa using ran
      exact absurd succeeded failed

theorem selects_iff (course : Course name session doings chosen) (entry : Entry) :
    Selects name session doings entry ↔ chosen = .ok entry := by
  constructor
  · intro selects
    cases selects with
    | exact ran succeeded read =>
        rw [course.chosen_exact ran succeeded]
        exact exactEntry_ok.mpr read
    | @found output _ rest ran succeeded read =>
        rw [course.chosen_found ran]
        exact firstFound_ok.mpr ⟨succeeded, rest, read⟩
  · intro decided
    cases course with
    | refused | broken | unsearched => cases decided
    | exact good succeeded => exact .exact (by simp) succeeded (exactEntry_ok.mp decided)
    | searched good failed found =>
        obtain ⟨succeeded, rest, read⟩ := firstFound_ok.mp decided
        exact .found (by simp) succeeded read

theorem passes_on (course : Course name session doings chosen) {command : Command}
    {error : VaultError} (ran : .ran command (.error error) ∈ doings) : chosen = .error error := by
  cases course with
  | refused bad => cases ran
  | broken good other =>
      obtain ⟨-, rfl⟩ : command = _ ∧ error = other := by simpa using ran
      rfl
  | exact | searched => simp at ran
  | unsearched good failed other =>
      obtain ⟨-, rfl⟩ : command = _ ∧ error = other := by simpa using ran
      rfl

theorem searches_iff (course : Course name session doings chosen) {exact : RunResult}
    (ran : .ran (.getItem name session) exact ∈ doings) :
    .searchItems name session ∈ commandsOf doings ↔
      ∃ output, exact = .ok output ∧ output.exit ≠ some 0 := by
  cases course with
  | refused bad => cases ran
  | broken good error =>
      obtain rfl : exact = .error error := by simpa using ran
      simp [commandsOf, Doing.command?]
  | @exact good output succeeded =>
      obtain rfl : exact = .ok output := by simpa using ran
      simp [commandsOf, Doing.command?, succeeded]
  | @unsearched good output failed error =>
      obtain rfl : exact = .ok output := by simpa using ran
      simp [commandsOf, Doing.command?, failed]
  | @searched good output failed found =>
      obtain rfl : exact = .ok output := by simpa using ran
      simp [commandsOf, Doing.command?, failed]

theorem answered_iff (course : Course name session doings chosen) (value : Secret) :
    chosen >>= valueOf name = .ok value ↔
      ∃ entry, Selects name session doings entry ∧ entry.clientValue = some value.reveal := by
  simp only [course.selects_iff]
  cases chosen with
  | error error =>
      constructor
      · intro answered
        cases answered
      · rintro ⟨entry, decided, _⟩
        cases decided
  | ok entry =>
      change valueOf name entry = .ok value ↔ _
      simp [valueOf_ok]

theorem looks (course : Course name session doings chosen) :
    Looks name session doings (chosen >>= valueOf name) where
  refused bad := by
    cases course with
    | refused fault =>
        obtain ⟨reason, rfl⟩ := lookupFault_input fault
        exact ⟨rfl, reason, rfl⟩
    | broken good | exact good | unsearched good | searched good => exact absurd good bad
  ordered good := by
    cases course with
    | refused fault =>
        rw [lookupFault_eq_none.mpr good] at fault
        cases fault
    | broken | exact => exact ⟨_, Or.inl rfl⟩
    | unsearched | searched => exact ⟨_, Or.inr ⟨_, rfl⟩⟩
  searched exact ran := course.searches_iff ran
  answered := course.answered_iff
  valueless entry selects valueless := by
    rw [(course.selects_iff entry).mp selects]
    exact valueOf_noValue.mpr valueless
  unmatched found ran succeeded read := by
    rw [course.chosen_found ran, firstFound, (success_iff found).mpr succeeded, read]
    rfl
  exactUnreadable output ran succeeded read := by
    rw [course.chosen_exact ran succeeded, exactEntry, read]
    rfl
  foundUnreadable found ran succeeded read := by
    rw [course.chosen_found ran, firstFound, (success_iff found).mpr succeeded, read]
    rfl
  failed found ran fails := by
    have unsuccessful : found.success = false :=
      Bool.eq_false_iff.mpr fun success => fails ((success_iff found).mp success)
    rw [course.chosen_found ran, firstFound, unsuccessful]
    rfl
  passedOn command error ran := by
    rw [course.passes_on ran]
    rfl

end Course

end SecretBroker.Cli
