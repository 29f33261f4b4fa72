import SecretBroker.Proofs.ClientPlay
import SecretBroker.Proofs.SessionTurns

/-!
What the openings of a run do one by one. Whatever happens around it, an opening issues the commands
of its own dialogue in their order, and the answer that its caller gets is the dialogue's result.
-/

namespace SecretBroker.Cli

def SessionEvent.commandOf? (id : Nat) : SessionEvent → Option Command
  | .issued other _ command => if other = id then some command else none
  | _ => none

/-- The commands that an opening has issued, in order. -/
def issuedBy (id : Nat) (history : List SessionEvent) : List Command :=
  (history.filterMap (SessionEvent.commandOf? id)).reverse

theorem issuedBy_quiet {id : Nat} {event : SessionEvent} (history : List SessionEvent)
    (silent : event.commandOf? id = none) : issuedBy id (event :: history) = issuedBy id history := by
  simp [issuedBy, silent]

theorem issuedBy_issued (id : Nat) (owner : Option Nat) (command : Command)
    (history : List SessionEvent) :
    issuedBy id (.issued id owner command :: history) = issuedBy id history ++ [command] := by
  simp [issuedBy, SessionEvent.commandOf?]

theorem issuedBy_none {id : Nat} {history : List SessionEvent} (silent : ¬ Issued history id) :
    issuedBy id history = [] := by
  simp only [issuedBy, List.reverse_eq_nil_iff, List.filterMap_eq_nil_iff]
  intro event member
  cases event with
  | issued other owner command =>
      apply if_neg
      rintro rfl
      exact silent ⟨owner, command, member⟩
  | completed | wrote | stopped => rfl

/-- How an opening came to where it is: what it has done and whatever will be done from there make a
play of its dialogue. -/
def Opening.Talked (opening : Opening) (commands : List Command) : Prop :=
  let whole := opening.bootstrap.establish
  match opening.stage with
  | .queued => commands = []
  | .talking rest =>
    ∃ doings, commandsOf doings = commands ∧
      ∀ later answer, rest.Plays later answer → whole.Plays (doings ++ later) answer
  | .waiting next =>
    ∃ doings command, commandsOf doings ++ [command] = commands ∧
      ∀ result later answer, (next result).Plays later answer →
        whole.Plays (doings ++ .ran command result :: later) answer
  | .returning answer => ∃ doings, commandsOf doings = commands ∧ whole.Plays doings answer
  | .ended => True

namespace Openings

variable {run after : Openings} {id : Nat} {opening : Opening}

structure Faithful (run : Openings) : Prop where
  talks : ∀ id opening, run.openings id = some opening →
    opening.Talked (issuedBy id run.history)
  completed : ∀ id owner answer, .completed id owner answer ∈ run.history →
    ∃ opening doings, run.openings id = some opening ∧ opening.stage = .ended ∧
      opening.bootstrap.establish.Plays doings answer ∧
      commandsOf doings = issuedBy id run.history

theorem start_faithful (sessions : Nat → Secret) : Faithful (start sessions) where
  talks _ _ present := by cases present
  completed _ _ _ member := by cases member

/-- An opening is where it is, and not another time where it was before. -/
theorem Faithful.place (faithful : Faithful run) (turns : Turns) (stage : Stage)
    (present : run.openings id = some opening)
    (talked : Opening.Talked { opening with stage } (issuedBy id run.history))
    (stays : opening.stage = .ended → stage = .ended) :
    Faithful ((run.withTurns turns).place id { opening with stage }) where
  talks other there moved := by
    rcases place_cases moved with ⟨rfl, rfl⟩ | ⟨_, before⟩
    · exact talked
    · exact faithful.talks other there before
  completed other owner answer member := by
    obtain ⟨begun, doings, before, ended, plays, commands⟩ :=
      faithful.completed other owner answer member
    by_cases same : other = id
    · subst same
      obtain rfl := Option.some.inj (present.symm.trans before)
      exact ⟨_, doings, place_same _ _ _, stays ended, plays, commands⟩
    · exact ⟨begun, doings, (place_other _ _ same).trans before, ended, plays, commands⟩

theorem Faithful.enter (faithful : Faithful run) (orderly : Orderly run) (bootstrap : Bootstrap)
    (owner : Option Nat) (absent : run.openings id = none) :
    Faithful (run.enter id bootstrap owner) where
  talks other there moved := by
    rcases place_cases moved with ⟨rfl, rfl⟩ | ⟨_, before⟩
    · apply issuedBy_none
      intro issued
      obtain ⟨opening, before, _⟩ := orderly.spoken other issued
      rw [absent] at before
      cases before
    · exact faithful.talks other there before
  completed other owner answer member := by
    obtain ⟨begun, doings, before, rest⟩ := faithful.completed other owner answer member
    have differs : other ≠ id := by
      rintro rfl
      rw [absent] at before
      cases before
    exact ⟨begun, doings, (place_other _ _ differs).trans before, rest⟩

/-- Nothing that openings do is on record anew. -/
theorem Faithful.note (faithful : Faithful run) {event : SessionEvent}
    (silent : ∀ id, event.commandOf? id = none)
    (completes : ∀ id owner answer, event = .completed id owner answer →
      ∃ opening doings, run.openings id = some opening ∧ opening.stage = .ended ∧
        opening.bootstrap.establish.Plays doings answer ∧
        commandsOf doings = issuedBy id run.history) : Faithful (run.note event) where
  talks id opening present := by
    change opening.Talked (issuedBy id (event :: run.history))
    rw [issuedBy_quiet _ (silent id)]
    exact faithful.talks id opening present
  completed id owner answer member := by
    change ∃ opening doings, _ ∧ _ ∧ _ ∧ _ = issuedBy id (event :: run.history)
    rw [issuedBy_quiet _ (silent id)]
    rcases List.mem_cons.mp member with same | older
    · exact completes id owner answer same.symm
    · exact faithful.completed id owner answer older

theorem Faithful.issue (faithful : Faithful run) {command : Command}
    {next : RunResult → Dialogue (Answer Secret)} (present : run.openings id = some opening)
    (talks : opening.stage = .talking (.run command next)) :
    Faithful ((run.place id { opening with stage := .waiting next }).note
      (.issued id opening.owner command)) where
  talks other there moved := by
    change there.Talked (issuedBy other (.issued id opening.owner command :: run.history))
    rcases place_cases moved with ⟨rfl, rfl⟩ | ⟨differs, before⟩
    · have before := faithful.talks other opening present
      simp only [Opening.Talked, talks] at before
      obtain ⟨doings, commands, goes⟩ := before
      rw [issuedBy_issued]
      refine ⟨doings, command, by rw [commands], ?_⟩
      intro result later answer plays
      exact goes _ answer (.run result plays)
    · have silent : (SessionEvent.issued id opening.owner command).commandOf? other = none :=
        if_neg fun same => differs same.symm
      rw [issuedBy_quiet _ silent]
      exact faithful.talks other there before
  completed other owner answer member := by
    rcases List.mem_cons.mp member with same | older
    · cases same
    · obtain ⟨begun, doings, before, ended, plays, commands⟩ :=
        faithful.completed other owner answer older
      -- An opening whose answer is on record has ended and does not talk.
      have differs : id ≠ other := by
        rintro rfl
        obtain rfl := Option.some.inj (present.symm.trans before)
        rw [talks] at ended
        cases ended
      have silent : (SessionEvent.issued id opening.owner command).commandOf? other = none :=
        if_neg differs
      refine ⟨begun, doings, ?_, ended, plays, ?_⟩
      · exact (place_other _ _ fun as => differs as.symm).trans before
      · exact commands.trans (issuedBy_quiet _ silent).symm

theorem Faithful.congr (faithful : Faithful run)
    (sameOpenings : after.openings = run.openings) (sameHistory : after.history = run.history) :
    Faithful after := by
  constructor
  · rw [sameOpenings, sameHistory]
    exact faithful.talks
  · rw [sameOpenings, sameHistory]
    exact faithful.completed

theorem Faithful.write (faithful : Faithful run) (source : Nat) (writer : Option Nat)
    (session : Secret) : Faithful (run.write source writer session) := by
  have same : Faithful { run with
      sessions := Function.update run.sessions source session } := faithful.congr rfl rfl
  exact same.note (fun _ => rfl) (by simp)

theorem Faithful.complete (faithful : Faithful run) {answer : Answer Secret}
    (present : run.openings id = some opening) (returns : opening.stage = .returning answer) :
    Faithful (run.complete id opening answer) := by
  have placed : Faithful (run.place id { opening with stage := .ended }) :=
    faithful.place run.turns .ended present trivial fun _ => rfl
  have done : Faithful ((run.place id { opening with stage := .ended }).note
      (.completed id opening.owner answer)) := by
    apply placed.note
    · exact fun _ => rfl
    · intro other owner result same
      obtain ⟨rfl, -, rfl⟩ := SessionEvent.completed.inj same
      have before := faithful.talks id opening present
      simp only [Opening.Talked, returns] at before
      obtain ⟨doings, commands, plays⟩ := before
      exact ⟨_, doings, place_same _ _ _, rfl, plays, commands⟩
  unfold Openings.complete
  split
  · exact done
  · split
    · cases answer with
      | error error => exact done.congr rfl rfl
      | ok session =>
          apply Faithful.write
          exact done.congr rfl rfl
    · exact done

theorem Moves.faithful (moves : run.Moves after) (orderly : Orderly run)
    (faithful : Faithful run) : Faithful after := by
  have assigned (id : Nat) (task : SessionTask) : Faithful (run.assign id task) :=
    faithful.congr rfl rfl
  cases moves with
  | still => exact faithful
  | came bootstrap absent => exact faithful.enter orderly bootstrap none absent
  | began present queued _ =>
      have before := faithful.talks _ _ present
      simp only [Opening.Talked, queued] at before
      apply faithful.place run.turns _ present
      · exact ⟨[], before.symm, fun _ _ plays => plays⟩
      · simp [queued]
  | issued present talks => exact faithful.issue present talks
  | answered result present waits =>
      have before := faithful.talks _ _ present
      simp only [Opening.Talked, waits] at before
      obtain ⟨doings, command, commands, goes⟩ := before
      apply faithful.place run.turns _ present
      · refine ⟨doings ++ [.ran command result], ?_, ?_⟩
        · simpa [commandsOf, Doing.command?] using commands
        · intro later answer plays
          simpa using goes result later answer plays
      · simp [waits]
  | @woke _ _ span next present talks =>
      have before := faithful.talks _ _ present
      simp only [Opening.Talked, talks] at before
      obtain ⟨doings, commands, goes⟩ := before
      apply faithful.place run.turns _ present
      · refine ⟨doings ++ [.paused span], ?_, ?_⟩
        · simpa [commandsOf, List.filterMap_cons, Doing.command?] using commands
        · intro later answer plays
          simpa using goes _ answer (.pause plays)
      · simp [talks]
  | left present talks =>
      have before := faithful.talks _ _ present
      simp only [Opening.Talked, talks] at before
      obtain ⟨doings, commands, goes⟩ := before
      apply faithful.place _ _ present
      · exact ⟨doings, commands, by simpa using goes [] _ (.done _)⟩
      · simp [talks]
  | completed present returns => exact faithful.complete present returns
  | cancelled present _ => exact faithful.place _ _ present trivial fun _ => rfl
  | spawned | told | closed => exact assigned _ _
  | ticked _ _ absent => exact (faithful.enter orderly _ _ absent).congr rfl rfl
  | @aborted id opening task begun holds errand present =>
      have ended : Faithful (run.quit opening begun .ended) :=
        faithful.place _ _ present trivial fun _ => rfl
      exact ended.congr rfl rfl
  | joined => exact faithful.note (fun _ => rfl) (by simp)
  | wrote source session => exact faithful.write source none session

theorem run_faithful (sessions : Nat → Secret) (acts : List Act) :
    Faithful (Openings.run sessions acts) :=
  run_invariant Faithful sessions acts (start_faithful sessions) fun _ _ orderly moves faithful =>
    moves.faithful orderly faithful

end Openings
end SecretBroker.Cli
