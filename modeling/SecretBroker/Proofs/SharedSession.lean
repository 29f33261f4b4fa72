import Mathlib.Logic.Function.Basic
import SecretBroker.Proofs.ClientLookups
import SecretBroker.Proofs.CommandSecrets

/-!
Any number of lookups at once through a source whose session may be replaced at any time. A lookup
takes the session when it comes, its commands and their answers come in any order among those of the
others, and it may be given up anywhere. Whatever happens around it, it does what a lookup with the
session that it took does, and comes to what that comes to.
-/

namespace SecretBroker.Cli

/-- How far a lookup has come. -/
inductive Inquiry.Position where
  | talking (rest : Dialogue (Answer Secret))
  | waiting (command : Command) (next : RunResult → Dialogue (Answer Secret))
  | returned (answer : Answer Secret)
  | givenUp

/-- A lookup in a run, with the commands that it has issued and what it has done, in order. A command
is done once it has its answer. -/
structure Inquiry where
  position : Inquiry.Position
  issued : List Command
  doings : List Doing

namespace Inquiry

/-- What a lookup does, or what happens to it. -/
inductive Deed where
  | issue
  | answer (result : RunResult)
  | wake
  | conclude
  | cancel

/-- A lookup goes on where it stands; nothing happens, if it cannot. -/
def go (inquiry : Inquiry) (deed : Deed) : Inquiry :=
  match deed, inquiry.position with
  | .issue, .talking (.run command next) =>
    { inquiry with position := .waiting command next, issued := inquiry.issued ++ [command] }
  | .answer result, .waiting command next =>
    { inquiry with
      position := .talking (next result)
      doings := inquiry.doings ++ [.ran command result] }
  | .wake, .talking (.pause span next) =>
    { inquiry with position := .talking next, doings := inquiry.doings ++ [.paused span] }
  | .conclude, .talking (.done answer) => { inquiry with position := .returned answer }
  | .cancel, .talking _ | .cancel, .waiting _ _ => { inquiry with position := .givenUp }
  | _, _ => inquiry

end Inquiry

structure Source where
  session : Secret
  inquiries : Nat → Option Inquiry

namespace Source

inductive Act where
  | swap (session : Secret)
  | come (id : Nat) (name : String)
  | go (id : Nat) (deed : Inquiry.Deed)

def start (session : Secret) : Source := ⟨session, fun _ => none⟩

def place (source : Source) (id : Nat) (inquiry : Inquiry) : Source :=
  { source with inquiries := Function.update source.inquiries id (some inquiry) }

def step (source : Source) : Act → Source
  | .swap session => { source with session }
  | .come id name =>
    match source.inquiries id with
    | none => source.place id ⟨.talking (fetch name source.session), [], []⟩
    | some _ => source
  | .go id deed =>
    match source.inquiries id with
    | some inquiry => source.place id (inquiry.go deed)
    | none => source

/-- Every run, where the source has a session to begin with. -/
def run (session : Secret) (acts : List Act) : Source := acts.foldl step (start session)

end Source

namespace Inquiry

/-- A lookup stands where its dialogue can have brought it. -/
inductive Stands (whole : Dialogue (Answer Secret)) : Inquiry → Prop where
  | talking {rest : Dialogue (Answer Secret)} {doings : List Doing}
    (reaches : whole.Reaches doings rest) : Stands whole ⟨.talking rest, commandsOf doings, doings⟩
  | waiting {command : Command} {next : RunResult → Dialogue (Answer Secret)} {doings : List Doing}
    (reaches : whole.Reaches doings (.run command next)) :
    Stands whole ⟨.waiting command next, commandsOf doings ++ [command], doings⟩
  | returned {answer : Answer Secret} {doings : List Doing} (plays : whole.Plays doings answer) :
    Stands whole ⟨.returned answer, commandsOf doings, doings⟩
  | leftTalking {rest : Dialogue (Answer Secret)} {doings : List Doing}
    (reaches : whole.Reaches doings rest) : Stands whole ⟨.givenUp, commandsOf doings, doings⟩
  | leftWaiting {command : Command} {next : RunResult → Dialogue (Answer Secret)}
    {doings : List Doing} (reaches : whole.Reaches doings (.run command next)) :
    Stands whole ⟨.givenUp, commandsOf doings ++ [command], doings⟩

variable {whole : Dialogue (Answer Secret)} {inquiry : Inquiry}

theorem Stands.ran {command : Command} {next : RunResult → Dialogue (Answer Secret)}
    {doings : List Doing} (reaches : whole.Reaches doings (.run command next)) (result : RunResult) :
    Stands whole ⟨.talking (next result), commandsOf doings ++ [command],
      doings ++ [.ran command result]⟩ := by
  rw [← commandsOf_ran doings command result]
  exact .talking (reaches.ran result)

theorem Stands.woke {span : Span} {next : Dialogue (Answer Secret)} {doings : List Doing}
    (reaches : whole.Reaches doings (.pause span next)) :
    Stands whole ⟨.talking next, commandsOf doings, doings ++ [.paused span]⟩ := by
  rw [← commandsOf_pause doings span]
  exact .talking reaches.paused

theorem Stands.go (stands : inquiry.Stands whole) (deed : Deed) : (inquiry.go deed).Stands whole := by
  cases stands with
  | @talking rest doings reaches =>
      cases deed with
      | issue =>
          cases rest with
          | run command next => exact .waiting reaches
          | done | pause => exact .talking reaches
      | answer result => exact .talking reaches
      | wake =>
          cases rest with
          | pause span next => exact .woke reaches
          | done | run => exact .talking reaches
      | conclude =>
          cases rest with
          | done answer => exact .returned reaches.result
          | run | pause => exact .talking reaches
      | cancel => exact .leftTalking reaches
  | @waiting command next doings reaches =>
      cases deed with
      | answer result => exact .ran reaches result
      | cancel => exact .leftWaiting reaches
      | issue | wake | conclude => exact .waiting reaches
  | returned plays => cases deed <;> exact .returned plays
  | leftTalking reaches => cases deed <;> exact .leftTalking reaches
  | leftWaiting reaches => cases deed <;> exact .leftWaiting reaches

/-- What a lookup has done and issued is the beginning of something that can be done in its dialogue,
also where it was given up; and no command is issued before the one before it has its answer. -/
theorem Stands.begins (stands : inquiry.Stands whole) :
    ∃ doings answer, whole.Plays doings answer ∧ inquiry.doings <+: doings ∧
      inquiry.issued <+: commandsOf doings ∧ inquiry.issued.length ≤ inquiry.doings.length + 1 := by
  cases stands with
  | talking reaches | leftTalking reaches =>
      obtain ⟨all, answer, plays, done, issued⟩ := reaches.begins
      exact ⟨all, answer, plays, done, issued, Nat.le_succ_of_le (commandsOf_length_le _)⟩
  | waiting reaches | leftWaiting reaches =>
      obtain ⟨all, answer, plays, done, issued⟩ := reaches.begins_waiting
      refine ⟨all, answer, plays, done, issued, ?_⟩
      simpa using commandsOf_length_le _
  | returned plays =>
      exact ⟨_, _, plays, List.prefix_rfl, List.prefix_rfl,
        Nat.le_succ_of_le (commandsOf_length_le _)⟩

theorem Stands.answered (stands : inquiry.Stands whole) {answer : Answer Secret}
    (returned : inquiry.position = .returned answer) :
    whole.Plays inquiry.doings answer ∧ inquiry.issued = commandsOf inquiry.doings := by
  cases stands with
  | returned plays =>
      cases returned
      exact ⟨plays, rfl⟩
  | talking | waiting | leftTalking | leftWaiting => cases returned

end Inquiry

namespace Source

variable {source : Source} {whole : Dialogue (Answer Secret)} {id : Nat}

def Hosts (source : Source) (id : Nat) (whole : Dialogue (Answer Secret)) : Prop :=
  ∃ inquiry, source.inquiries id = some inquiry ∧ inquiry.Stands whole

theorem Hosts.place (hosts : source.Hosts id whole) {other : Nat} (differs : id ≠ other)
    (inquiry : Inquiry) : (source.place other inquiry).Hosts id whole := by
  obtain ⟨own, present, stands⟩ := hosts
  exact ⟨own, (Function.update_of_ne differs _ _).trans present, stands⟩

theorem hosts_placed {inquiry : Inquiry} (stands : inquiry.Stands whole) :
    (source.place id inquiry).Hosts id whole :=
  ⟨inquiry, Function.update_self _ _ _, stands⟩

/-- Neither another session nor what other lookups do has a say in a lookup. -/
theorem Hosts.step (hosts : source.Hosts id whole) (act : Act) : (source.step act).Hosts id whole := by
  have hosting := hosts
  obtain ⟨inquiry, present, stands⟩ := hosting
  cases act with
  | swap session => exact hosts
  | come other name =>
      simp only [Source.step]
      cases there : source.inquiries other with
      | some _ => exact hosts
      | none =>
          apply hosts.place
          rintro rfl
          rw [there] at present
          cases present
  | go other deed =>
      simp only [Source.step]
      cases there : source.inquiries other with
      | none => exact hosts
      | some moved =>
          by_cases same : id = other
          · subst same
            obtain rfl := Option.some.inj (present.symm.trans there)
            exact hosts_placed (stands.go deed)
          · exact hosts.place same _

theorem Hosts.run (hosts : source.Hosts id whole) (acts : List Act) :
    (acts.foldl Source.step source).Hosts id whole := by
  induction acts generalizing source with
  | nil => exact hosts
  | cons act rest ih => exact ih (hosts.step act)

end Source

theorem Looks.settings {name : String} {session : Secret} {doings : List Doing}
    {answer : Answer Secret} (looks : Looks name session doings answer) :
    ∀ command ∈ commandsOf doings, command.env = [("BW_SESSION", session)] := by
  intro command member
  by_cases good : GoodName name
  · obtain ⟨exact, rfl | ⟨found, rfl⟩⟩ := looks.ordered good
    · rw [List.mem_singleton.mp member]
      rfl
    · rcases List.mem_cons.mp member with rfl | member
      · rfl
      · rw [List.mem_singleton.mp member]
        rfl
  · rw [(looks.refused good).1] at member
    cases member

end SecretBroker.Cli
