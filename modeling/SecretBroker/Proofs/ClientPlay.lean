import SecretBroker.Cli.Dialogue

/-!
Dialogues played against a client that may do anything: each run comes to an output or to an error,
in whatever order. What is done in a dialogue are its runs, with what they came to, and its pauses.
-/

namespace SecretBroker.Cli

inductive Doing where
  | ran (command : Command) (result : RunResult)
  | paused (span : Span)
  deriving DecidableEq

def Doing.command? : Doing → Option Command
  | .ran command _ => some command
  | .paused _ => none

/-- The commands that are issued, in order. -/
def commandsOf (doings : List Doing) : List Command := doings.filterMap Doing.command?

theorem commandsOf_ran (doings : List Doing) (command : Command) (result : RunResult) :
    commandsOf (doings ++ [.ran command result]) = commandsOf doings ++ [command] := by
  simp [commandsOf, Doing.command?]

theorem commandsOf_pause (doings : List Doing) (span : Span) :
    commandsOf (doings ++ [.paused span]) = commandsOf doings := by
  simp [commandsOf, Doing.command?]

theorem commandsOf_length_le (doings : List Doing) : (commandsOf doings).length ≤ doings.length :=
  List.length_filterMap_le _ _

namespace Dialogue

variable {α β : Type}

/-- What is done in a dialogue, and its result, where a script tells what each run comes to. -/
def play (script : Nat → RunResult) : Dialogue α → Nat → List Doing × α
  | .done result, _ => ([], result)
  | .run command next, turn =>
    let rest := (next (script turn)).play script (turn + 1)
    (.ran command (script turn) :: rest.1, rest.2)
  | .pause span next, turn =>
    let rest := next.play script turn
    (.paused span :: rest.1, rest.2)

/-- Everything that can be done in a dialogue, with what it results in. -/
inductive Plays : Dialogue α → List Doing → α → Prop where
  | done (result : α) : Plays (.done result) [] result
  | run {command : Command} {next : RunResult → Dialogue α} {doings : List Doing} {answer : α}
    (result : RunResult) (rest : Plays (next result) doings answer) :
    Plays (.run command next) (.ran command result :: doings) answer
  | pause {span : Span} {next : Dialogue α} {doings : List Doing} {answer : α}
    (rest : Plays next doings answer) : Plays (.pause span next) (.paused span :: doings) answer

theorem play_plays (script : Nat → RunResult) (dialogue : Dialogue α) (turn : Nat) :
    dialogue.Plays (dialogue.play script turn).1 (dialogue.play script turn).2 := by
  induction dialogue generalizing turn with
  | done result => exact .done result
  | run command next ih => exact .run (script turn) (ih (script turn) (turn + 1))
  | pause span next ih => exact .pause (ih turn)

theorem plays_done {result answer : α} {doings : List Doing}
    (plays : (done result).Plays doings answer) : doings = [] ∧ answer = result := by
  cases plays
  exact ⟨rfl, rfl⟩

theorem plays_bind {dialogue : Dialogue α} {rest : α → Dialogue β} {doings : List Doing}
    {answer : β} (plays : (dialogue.bind rest).Plays doings answer) :
    ∃ first middle later, dialogue.Plays first middle ∧ (rest middle).Plays later answer ∧
      doings = first ++ later := by
  induction dialogue generalizing doings with
  | done result => exact ⟨[], result, doings, .done result, plays, rfl⟩
  | run command next ih =>
      cases plays with
      | run result inner =>
          obtain ⟨first, middle, later, played, after, rfl⟩ := ih result inner
          exact ⟨_ :: first, middle, later, .run result played, after, rfl⟩
  | pause span next ih =>
      cases plays with
      | pause inner =>
          obtain ⟨first, middle, later, played, after, rfl⟩ := ih inner
          exact ⟨_ :: first, middle, later, .pause played, after, rfl⟩

/-- A failure ends the whole; after a success the rest is played. -/
theorem plays_andThen {dialogue : Dialogue (Answer α)} {rest : α → Dialogue (Answer β)}
    {doings : List Doing} {answer : Answer β}
    (plays : (dialogue.andThen rest).Plays doings answer) :
    (∃ error, dialogue.Plays doings (.error error) ∧ answer = .error error) ∨
      ∃ value first later, dialogue.Plays first (.ok value) ∧ (rest value).Plays later answer ∧
        doings = first ++ later := by
  obtain ⟨first, middle, later, played, after, rfl⟩ := plays_bind plays
  cases middle with
  | error error =>
      obtain ⟨rfl, rfl⟩ := plays_done after
      rw [List.append_nil]
      exact Or.inl ⟨error, played, rfl⟩
  | ok value => exact Or.inr ⟨value, first, later, played, after, rfl⟩

theorem plays_output {command : Command} {doings : List Doing} {answer : RunResult}
    (plays : (output command).Plays doings answer) : doings = [.ran command answer] := by
  cases plays with
  | run result rest =>
      obtain ⟨rfl, rfl⟩ := plays_done rest
      rfl

/-- A run whose error is the answer, and whose output decides how to go on. -/
theorem plays_output_andThen {command : Command} {rest : Output → Dialogue (Answer α)}
    {doings : List Doing} {answer : Answer α}
    (plays : ((output command).andThen rest).Plays doings answer) :
    (∃ error, doings = [.ran command (.error error)] ∧ answer = .error error) ∨
      ∃ output later, (rest output).Plays later answer ∧
        doings = .ran command (.ok output) :: later := by
  rcases plays_andThen plays with
    ⟨error, played, failed⟩ | ⟨output, first, later, played, after, rfl⟩
  · exact Or.inl ⟨error, plays_output played, failed⟩
  · rw [plays_output played]
    exact Or.inr ⟨output, later, after, rfl⟩

/-- What was done in a dialogue and what is left of it: whatever is done in the rest, all of it
together can be done in the whole. -/
def Reaches (whole : Dialogue α) (doings : List Doing) (rest : Dialogue α) : Prop :=
  ∀ later answer, rest.Plays later answer → whole.Plays (doings ++ later) answer

variable {whole rest : Dialogue α} {doings : List Doing}

theorem Reaches.ran {command : Command} {next : RunResult → Dialogue α}
    (reaches : whole.Reaches doings (.run command next)) (result : RunResult) :
    whole.Reaches (doings ++ [.ran command result]) (next result) := by
  intro later answer plays
  simpa using reaches _ answer (.run result plays)

theorem Reaches.paused {span : Span} {next : Dialogue α}
    (reaches : whole.Reaches doings (.pause span next)) :
    whole.Reaches (doings ++ [.paused span]) next := by
  intro later answer plays
  simpa using reaches _ answer (.pause plays)

theorem Reaches.result {answer : α} (reaches : whole.Reaches doings (.done answer)) :
    whole.Plays doings answer := by
  simpa using reaches [] answer (.done answer)

/-- A dialogue can always be played to its end. -/
theorem Reaches.begins (reaches : whole.Reaches doings rest) :
    ∃ all answer, whole.Plays all answer ∧ doings <+: all ∧ commandsOf doings <+: commandsOf all := by
  have plays := play_plays (fun _ => .error (.transport "")) rest 0
  refine ⟨_, _, reaches _ _ plays, List.prefix_append _ _, ?_⟩
  simp [commandsOf]

/-- Whatever a command comes to, it is the next of all. -/
theorem Reaches.begins_waiting {command : Command} {next : RunResult → Dialogue α}
    (reaches : whole.Reaches doings (.run command next)) :
    ∃ all answer, whole.Plays all answer ∧ doings <+: all ∧
      commandsOf doings ++ [command] <+: commandsOf all := by
  obtain ⟨all, answer, plays, done, issued⟩ := (reaches.ran (.error (.transport ""))).begins
  rw [commandsOf_ran] at issued
  exact ⟨all, answer, plays, (List.prefix_append _ _).trans done, issued⟩

end Dialogue
end SecretBroker.Cli
