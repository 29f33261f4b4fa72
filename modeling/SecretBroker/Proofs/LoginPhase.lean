import SecretBroker.Cli.Bootstrap
import SecretBroker.Proofs.ClientPlay
import SecretBroker.Proofs.JsonReadings
import SecretBroker.Proofs.SoleMembers
import SecretBroker.Proofs.TrimmedTexts

/-!
The login phase, whatever the client does: it consists of logins alone, with pauses between them. A
login that was turned away for its rate is tried again while attempts are left, and any other login
ends the phase with what it came to. No login is needed where the text that the status printed is,
by the grammar of JSON, a record with one of two statuses.
-/

namespace SecretBroker.Cli

open Dialogue

def Succeeded (result : RunResult) : Prop := ∃ output, result = .ok output ∧ output.exit = some 0

/-- What was printed is, apart from blanks around it, a writing of a record with this status. -/
def TellsStatus (output : Output) (told : String) : Prop :=
  ∃ printed json, Text.Trimmed output.stdout printed ∧ Json.Writes (.item json) printed.toList ∧
    Json.Sole "status" json (some (.text (some told)))

/-- A status run has told that no login is needed. -/
def SparesLogin (status : RunResult) : Prop :=
  ∃ output told, status = .ok output ∧ TellsStatus output told ∧ (told = "locked" ∨ told = "unlocked")

def LoggedIn (result : RunResult) : Prop :=
  ∃ output, result = .ok output ∧ classifyLogin output = .loggedIn

def RateLimited (result : RunResult) : Prop :=
  ∃ output, result = .ok output ∧ classifyLogin output = .rateLimited

/-- A run fails the whole: with its own error, or with a refusal because of its output. -/
def FailsWith (result : RunResult) (error : VaultError) : Prop :=
  result = .error error ∨ (∃ output, result = .ok output) ∧ ∃ reason, error = .authFailure reason

/-- The number of runs of a command. -/
def runsOf (command : Command) (doings : List Doing) : Nat := (commandsOf doings).count command

theorem succeeded_iff (output : Output) : Succeeded (.ok output) ↔ output.success = true := by
  simp [Succeeded, Output.success]

theorem reportedStatus_iff (output : Output) (told : String) :
    reportedStatus output = some told ↔ TellsStatus output told := by
  simp only [reportedStatus, Option.bind_eq_bind, Option.bind_eq_some_iff]
  constructor
  · rintro ⟨json, read, slots, given, found⟩
    refine ⟨_, json, (Text.trim_eq_iff _ _).mp rfl, (Json.readText_iff _ _).mp read, ?_⟩
    split at found
    · rw [(Json.string_iff _ _).mp found] at given
      exact (Json.slots_sole_iff _ _ _).mp given
    · cases found
  · rintro ⟨printed, json, trimmed, written, sole⟩
    rw [(Text.trim_eq_iff _ _).mpr trimmed]
    exact ⟨json, (Json.readText_iff _ _).mpr written, _, (Json.slots_sole_iff _ _ _).mpr sole, rfl⟩

theorem spares_iff (status : RunResult) : SparesLogin status ↔ saysLoggedIn status = true := by
  cases status with
  | error error => simp [SparesLogin, saysLoggedIn]
  | ok output =>
      simp only [SparesLogin, saysLoggedIn, Except.ok.injEq, Bool.or_eq_true, beq_iff_eq,
        reportedStatus_iff]
      constructor
      · rintro ⟨_, told, rfl, reported, rfl | rfl⟩
        · exact Or.inl reported
        · exact Or.inr reported
      · rintro (reported | reported)
        · exact ⟨output, _, rfl, reported, Or.inl rfl⟩
        · exact ⟨output, _, rfl, reported, Or.inr rfl⟩

theorem rate_limited_not_logged_in {result : RunResult} (limited : RateLimited result) :
    ¬ LoggedIn result := by
  rintro ⟨output, rfl, loggedIn⟩
  obtain ⟨_, same, limits⟩ := limited
  obtain rfl := Except.ok.inj same
  rw [loggedIn] at limits
  cases limits

theorem unlocked_ok (output : Output) (session : Secret) :
    unlockedSession output = .ok session ↔
      output.exit = some 0 ∧ Text.Trimmed output.stdout session.reveal ∧ session.reveal ≠ "" := by
  rw [← Text.trim_eq_iff, eq_comm (a := Text.trim output.stdout)]
  unfold unlockedSession
  by_cases success : output.success = true
  · have exit : output.exit = some 0 := by simpa [Output.success] using success
    by_cases empty : Text.trim output.stdout = ""
    · simp [success, exit, empty]
    · simp only [success, exit, Bool.not_true, Bool.false_eq_true, ↓reduceIte, String.isEmpty_iff,
        empty, Except.ok.injEq, true_and]
      constructor
      · rintro rfl
        exact ⟨rfl, empty⟩
      · rintro ⟨same, _⟩
        cases session
        exact congrArg Secret.mk same.symm
  · have failed : output.exit ≠ some 0 := by simpa [Output.success] using success
    simp [success, failed]

theorem unlocked_error (output : Output) (error : VaultError)
    (refused : unlockedSession output = .error error) : ∃ reason, error = .authFailure reason := by
  unfold unlockedSession at refused
  split at refused
  · exact ⟨_, (Except.error.inj refused).symm⟩
  · split at refused
    · exact ⟨_, (Except.error.inj refused).symm⟩
    · cases refused

/-! What runs and pauses add to the commands that are issued. -/

theorem mem_commandsOf {command : Command} {result : RunResult} {doings : List Doing}
    (ran : .ran command result ∈ doings) : command ∈ commandsOf doings :=
  List.mem_filterMap.mpr ⟨_, ran, rfl⟩

theorem commandsOf_append (first later : List Doing) :
    commandsOf (first ++ later) = commandsOf first ++ commandsOf later :=
  List.filterMap_append

theorem commandsOf_paused (pauses : List Span) : commandsOf (pauses.map .paused) = [] := by
  simp [commandsOf, Doing.command?]

theorem commandsOf_paused_ran (pauses : List Span) (command : Command) (result : RunResult)
    (later : List Doing) :
    commandsOf (pauses.map .paused ++ .ran command result :: later) =
      command :: commandsOf later := by
  rw [commandsOf_append, commandsOf_paused]
  rfl

theorem runsOf_paused (command : Command) (pauses : List Span) :
    runsOf command (pauses.map .paused) = 0 := by
  rw [runsOf, commandsOf_paused]
  rfl

theorem runsOf_paused_ran (pauses : List Span) (command : Command) (result : RunResult)
    (later : List Doing) :
    runsOf command (pauses.map .paused ++ .ran command result :: later) =
      runsOf command later + 1 := by
  rw [runsOf, commandsOf_paused_ran, List.count_cons_self]
  rfl

theorem ran_mem_paused_ran {pauses : List Span} {command first : Command}
    {result firstResult : RunResult} {later : List Doing} :
    .ran command result ∈ pauses.map .paused ++ .ran first firstResult :: later ↔
      (command = first ∧ result = firstResult) ∨ .ran command result ∈ later := by
  simp

/-! A run is found before, at, or after the first one of a list. -/

theorem split_at_run {pauses : List Span} {command first : Command} {result firstResult : RunResult}
    {before after later : List Doing}
    (split : pauses.map .paused ++ .ran first firstResult :: later =
      before ++ .ran command result :: after) :
    (before = pauses.map .paused ∧ first = command ∧ firstResult = result ∧ later = after) ∨
      ∃ between, before = pauses.map .paused ++ .ran first firstResult :: between ∧
        later = between ++ .ran command result :: after := by
  induction pauses generalizing before with
  | nil =>
      cases before with
      | nil =>
          obtain ⟨head, rfl⟩ := List.cons.inj split
          obtain ⟨rfl, rfl⟩ := Doing.ran.inj head
          exact Or.inl ⟨rfl, rfl, rfl, rfl⟩
      | cons doing between =>
          obtain ⟨rfl, rest⟩ := List.cons.inj split
          exact Or.inr ⟨between, rfl, rest⟩
  | cons span rest ih =>
      cases before with
      | nil => cases (List.cons.inj split).1
      | cons doing between =>
          obtain ⟨rfl, inner⟩ := List.cons.inj split
          rcases ih inner with ⟨rfl, found⟩ | ⟨middle, rfl, found⟩
          · exact Or.inl ⟨rfl, found⟩
          · exact Or.inr ⟨middle, rfl, found⟩

theorem split_at_first {command first : Command} {result firstResult : RunResult}
    {before after later : List Doing}
    (split : .ran first firstResult :: later = before ++ .ran command result :: after) :
    first = command ∨ ∃ between, before = .ran first firstResult :: between ∧
      later = between ++ .ran command result :: after := by
  rcases @split_at_run [] _ _ _ _ _ _ _ split with ⟨_, same, _⟩ | found
  · exact Or.inl same
  · exact Or.inr found

namespace Bootstrap

variable {bootstrap : Bootstrap} {attempt left : Nat} {doings : List Doing}

def pausesBefore (attempt : Nat) : List Span := (pauseBefore attempt).toList

theorem plays_paused {α : Type} {span : Option Span} {dialogue : Dialogue α} {answer : α}
    (plays : (paused span dialogue).Plays doings answer) :
    ∃ rest, dialogue.Plays rest answer ∧ doings = span.toList.map .paused ++ rest := by
  cases span with
  | none => exact ⟨doings, plays, rfl⟩
  | some span =>
      cases plays with
      | pause rest => exact ⟨_, rest, rfl⟩

theorem plays_logIn_zero {answer : Answer Unit}
    (plays : (bootstrap.logIn attempt 0).Plays doings answer) :
    doings = [] ∧ answer = .error (.authFailure "bw login rate limited") :=
  plays_done plays

/-- An attempt is the last one unless it is turned away for its rate. -/
theorem plays_logIn_succ {answer : Answer Unit}
    (plays : (bootstrap.logIn attempt (left + 1)).Plays doings answer) :
    ∃ result later,
      doings = (pausesBefore attempt).map .paused ++ .ran bootstrap.loginCommand result :: later ∧
        ((RateLimited result ∧ (bootstrap.logIn (attempt + 1) left).Plays later answer) ∨
          (¬ RateLimited result ∧ later = [] ∧
            ((LoggedIn result ∧ answer = .ok ()) ∨
              (¬ LoggedIn result ∧ ∃ error, answer = .error error ∧ FailsWith result error)))) := by
  obtain ⟨rest, played, rfl⟩ := plays_paused plays
  rcases plays_output_andThen played with ⟨error, rfl, rfl⟩ | ⟨output, later, after, rfl⟩
  · refine ⟨.error error, [], rfl, Or.inr ⟨?_, rfl, Or.inr ⟨?_, error, rfl, Or.inl rfl⟩⟩⟩
    · rintro ⟨output, same, _⟩
      cases same
    · rintro ⟨output, same, _⟩
      cases same
  · refine ⟨.ok output, later, rfl, ?_⟩
    cases outcome : classifyLogin output with
    | loggedIn =>
        simp only [outcome] at after
        obtain ⟨rfl, rfl⟩ := plays_done after
        have loggedIn : LoggedIn (.ok output) := ⟨output, rfl, outcome⟩
        exact Or.inr ⟨fun limited => rate_limited_not_logged_in limited loggedIn, rfl,
          Or.inl ⟨loggedIn, rfl⟩⟩
    | rateLimited =>
        simp only [outcome] at after
        exact Or.inl ⟨⟨output, rfl, outcome⟩, after⟩
    | failed exit =>
        simp only [outcome] at after
        obtain ⟨rfl, rfl⟩ := plays_done after
        refine Or.inr ⟨?_, rfl, Or.inr ⟨?_, _, rfl, Or.inr ⟨⟨output, rfl⟩, _, rfl⟩⟩⟩
        · rintro ⟨other, same, limits⟩
          obtain rfl := Except.ok.inj same
          rw [outcome] at limits
          cases limits
        · rintro ⟨other, same, logs⟩
          obtain rfl := Except.ok.inj same
          rw [outcome] at logs
          cases logs

/-- Every run of a login phase is a login; there is at least one if there may be any. -/
theorem logIn_commands {answer : Answer Unit}
    (plays : (bootstrap.logIn attempt left).Plays doings answer) :
    ∃ logins ≤ left, commandsOf doings = List.replicate logins bootstrap.loginCommand ∧
      (0 < left → 0 < logins) := by
  induction left generalizing attempt doings with
  | zero =>
      obtain ⟨rfl, -⟩ := plays_logIn_zero plays
      exact ⟨0, Nat.le_refl 0, rfl, id⟩
  | succ left ih =>
      obtain ⟨result, later, rfl, goes⟩ := plays_logIn_succ plays
      rw [commandsOf_paused_ran]
      rcases goes with ⟨_, again⟩ | ⟨_, rfl, _⟩
      · obtain ⟨logins, few, commands, _⟩ := ih again
        rw [commands]
        exact ⟨logins + 1, by omega, rfl, fun _ => by omega⟩
      · exact ⟨1, by omega, rfl, fun _ => by omega⟩

/-- A login that was turned away for its rate is tried again after a pause while attempts are left;
any other login ends the phase. -/
theorem logIn_retries {answer : Answer Unit} {result : RunResult} {before after : List Doing}
    (numbered : 1 ≤ attempt)
    (plays : (bootstrap.logIn attempt left).Plays doings answer)
    (split : doings = before ++ .ran bootstrap.loginCommand result :: after) :
    (RateLimited result ∧ runsOf bootstrap.loginCommand before + 1 < left ∧
      ∃ span next rest,
        pauseBefore (attempt + runsOf bootstrap.loginCommand before + 1) = some span ∧
        after = .paused span :: .ran bootstrap.loginCommand next :: rest) ∨
    ((¬ RateLimited result ∨ left ≤ runsOf bootstrap.loginCommand before + 1) ∧ after = []) := by
  -- The attempts go down as the runs before this one go up: their sum is what the bound is about.
  induction left generalizing attempt doings before with
  | zero =>
      obtain ⟨rfl, -⟩ := plays_logIn_zero plays
      cases before <;> cases split
  | succ left ih =>
      obtain ⟨first, later, rfl, goes⟩ := plays_logIn_succ plays
      rcases split_at_run split with ⟨rfl, -, rfl, rfl⟩ | ⟨between, rfl, rest⟩
      · rw [runsOf_paused]
        rcases goes with ⟨limited, again⟩ | ⟨ends, rfl, _⟩
        · cases left with
          | zero =>
              obtain ⟨rfl, -⟩ := plays_logIn_zero again
              exact Or.inr ⟨Or.inr (Nat.le_refl _), rfl⟩
          | succ left =>
              obtain ⟨next, rest, rfl, -⟩ := plays_logIn_succ again
              have waits : pauseBefore (attempt + 1) =
                  some (.ofSeconds (5 * (attempt + 1) * (attempt + 1))) :=
                if_neg (by omega)
              refine Or.inl ⟨limited, by omega, _, next, rest, waits, ?_⟩
              simp [pausesBefore, waits]
        · exact Or.inr ⟨Or.inl ends, rfl⟩
      · -- the run is one of the attempts after the first
        rw [runsOf_paused_ran]
        rcases goes with ⟨_, again⟩ | ⟨_, rfl, _⟩
        · have later := ih (by omega) again rest
          rw [show attempt + (runsOf bootstrap.loginCommand between + 1) + 1 =
            attempt + 1 + runsOf bootstrap.loginCommand between + 1 by omega]
          rcases later with ⟨limited, more, paused⟩ | ⟨ends, last⟩
          · exact Or.inl ⟨limited, by omega, paused⟩
          · exact Or.inr ⟨ends.imp_right fun few => by omega, last⟩
        · cases between <;> cases rest

theorem logIn_ok {answer : Answer Unit}
    (plays : (bootstrap.logIn attempt left).Plays doings answer) :
    answer = .ok () ↔ ∃ result, .ran bootstrap.loginCommand result ∈ doings ∧ LoggedIn result := by
  induction left generalizing attempt doings with
  | zero =>
      obtain ⟨rfl, rfl⟩ := plays_logIn_zero plays
      simp
  | succ left ih =>
      obtain ⟨first, later, rfl, goes⟩ := plays_logIn_succ plays
      simp only [ran_mem_paused_ran, true_and]
      rcases goes with ⟨limited, again⟩ | ⟨_, rfl, ⟨loggedIn, rfl⟩ | ⟨failed, error, rfl, _⟩⟩
      · rw [ih again]
        constructor
        · rintro ⟨result, ran, loggedIn⟩
          exact ⟨result, Or.inr ran, loggedIn⟩
        · rintro ⟨result, rfl | ran, loggedIn⟩
          · exact absurd loggedIn (rate_limited_not_logged_in limited)
          · exact ⟨result, ran, loggedIn⟩
      · exact iff_of_true rfl ⟨first, Or.inl rfl, loggedIn⟩
      · simp [failed]

theorem logIn_error {answer : Answer Unit} {error : VaultError}
    (plays : (bootstrap.logIn attempt left).Plays doings answer)
    (ran : .ran bootstrap.loginCommand (.error error) ∈ doings) : answer = .error error := by
  induction left generalizing attempt doings with
  | zero =>
      obtain ⟨rfl, rfl⟩ := plays_logIn_zero plays
      cases ran
  | succ left ih =>
      obtain ⟨first, later, rfl, goes⟩ := plays_logIn_succ plays
      rw [ran_mem_paused_ran] at ran
      rcases ran with ⟨-, rfl⟩ | ran
      · rcases goes with
          ⟨⟨_, limited, _⟩, _⟩ | ⟨_, rfl, ⟨⟨_, loggedIn, _⟩, _⟩ | ⟨_, other, rfl, fails⟩⟩
        · cases limited
        · cases loggedIn
        · rcases fails with same | ⟨⟨output, same⟩, _⟩
          · rw [Except.error.inj same]
          · cases same
      · rcases goes with ⟨_, again⟩ | ⟨_, rfl, _⟩
        · exact ih again ran
        · cases ran

theorem logIn_fails {error : VaultError}
    (plays : (bootstrap.logIn attempt left).Plays doings (.error error)) :
    .ran bootstrap.loginCommand (.error error) ∈ doings ∨
      ∃ reason, error = .authFailure reason := by
  induction left generalizing attempt doings with
  | zero =>
      obtain ⟨-, refused⟩ := plays_logIn_zero plays
      exact Or.inr ⟨_, Except.error.inj refused⟩
  | succ left ih =>
      obtain ⟨first, later, rfl, goes⟩ := plays_logIn_succ plays
      rw [ran_mem_paused_ran]
      rcases goes with ⟨_, again⟩ | ⟨_, rfl, ⟨_, answered⟩ | ⟨_, other, same, fails⟩⟩
      · exact (ih again).imp_left Or.inr
      · cases answered
      · obtain rfl := Except.error.inj same
        rcases fails with rfl | ⟨_, reason⟩
        · exact Or.inl (Or.inl ⟨rfl, rfl⟩)
        · exact Or.inr reason

end Bootstrap
end SecretBroker.Cli
