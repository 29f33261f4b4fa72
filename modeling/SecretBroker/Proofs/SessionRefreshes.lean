import SecretBroker.Proofs.SessionTalks

/-!
What sources have for their sessions. A source has what was last written to it, and a task writes the
session of each of its openings that succeeds, and nothing else. So a source that only one task
writes to has the session of the last of these openings.
-/

namespace SecretBroker.Cli

@[simp]
def SessionEvent.wroteTo? (source : Nat) : SessionEvent → Option Secret
  | .wrote target _ session => if target = source then some session else none
  | _ => none

@[simp]
def SessionEvent.wroteBy? (id : Nat) : SessionEvent → Option Secret
  | .wrote _ (some writer) session => if writer = id then some session else none
  | _ => none

/-- Nothing is written, and no opening of a task succeeds. -/
def SessionEvent.Plain (event : SessionEvent) : Prop :=
  (∀ source, event.wroteTo? source = none) ∧ (∀ id, event.wroteBy? id = none) ∧
    ∀ id, event.good? id = none

namespace Openings

variable {run after : Openings} {sessions : Nat → Secret} {id : Nat} {opening : Opening}
  {task : SessionTask}

structure Kept (sessions : Nat → Secret) (run : Openings) : Prop where
  written : ∀ source, run.sessions source =
    (run.history.findSome? (SessionEvent.wroteTo? source)).getD (sessions source)
  paired : ∀ id, lastGood? id run.history = run.history.findSome? (SessionEvent.wroteBy? id)
  targets : ∀ id source session, .wrote source (some id) session ∈ run.history →
    ∃ task, run.tasks id = some task ∧ task.source = source

theorem start_kept (sessions : Nat → Secret) : Kept sessions (start sessions) where
  written _ := rfl
  paired _ := rfl
  targets _ _ _ member := by cases member

theorem Kept.congr (kept : Kept sessions run) (sameSessions : after.sessions = run.sessions)
    (sameHistory : after.history = run.history)
    (sources : ∀ id task, run.tasks id = some task →
      ∃ other, after.tasks id = some other ∧ other.source = task.source) : Kept sessions after where
  written := by
    rw [sameSessions, sameHistory]
    exact kept.written
  paired := by
    rw [sameHistory]
    exact kept.paired
  targets id source session member := by
    rw [sameHistory] at member
    obtain ⟨task, holds, target⟩ := kept.targets id source session member
    obtain ⟨other, still, same⟩ := sources id task holds
    exact ⟨other, still, same.trans target⟩

/-- Openings come and go without a change to sources. -/
theorem Kept.aside (kept : Kept sessions run) (sameSessions : after.sessions = run.sessions)
    (sameHistory : after.history = run.history) (sameTasks : after.tasks = run.tasks) :
    Kept sessions after := by
  apply kept.congr sameSessions sameHistory
  intro id task holds
  exact ⟨task, sameTasks ▸ holds, rfl⟩

theorem Kept.assign (kept : Kept sessions run) {other : SessionTask}
    (source : ∀ task, run.tasks id = some task → other.source = task.source) :
    Kept sessions (run.assign id other) := by
  have sources : ∀ owner task, run.tasks owner = some task →
      ∃ next, (run.assign id other).tasks owner = some next ∧ next.source = task.source := by
    intro owner task holds
    by_cases same : owner = id
    · subst same
      exact ⟨other, assign_same _ _ _, source task holds⟩
    · exact ⟨task, (assign_other _ _ same).trans holds, rfl⟩
  exact kept.congr rfl rfl sources

/-- A task changes, but for its source. -/
theorem Kept.change (kept : Kept sessions run) {other : SessionTask}
    (holds : run.tasks id = some task) (source : other.source = task.source) :
    Kept sessions (run.assign id other) := by
  apply kept.assign
  intro present same
  rw [holds] at same
  obtain rfl := Option.some.inj same
  exact source

theorem Kept.note (kept : Kept sessions run) {event : SessionEvent} (plain : event.Plain) :
    Kept sessions (run.note event) where
  written source := by
    simp only [Openings.note, List.findSome?_cons, plain.1 source]
    exact kept.written source
  paired id := by
    simp only [Openings.note, lastGood?, List.findSome?_cons, plain.2.1 id, plain.2.2 id]
    exact kept.paired id
  targets id source session member := by
    rcases List.mem_cons.mp member with same | older
    · have silent := plain.2.1 id
      rw [← same] at silent
      simp at silent
    · exact kept.targets id source session older

theorem written_write (run : Openings) {source : Nat} (writer : Option Nat) (session : Secret)
    (written : ∀ source, run.sessions source =
      (run.history.findSome? (SessionEvent.wroteTo? source)).getD (sessions source)) (other : Nat) :
    (run.write source writer session).sessions other =
      ((run.write source writer session).history.findSome? (SessionEvent.wroteTo? other)).getD
        (sessions other) := by
  simp only [Openings.write, Openings.note, List.findSome?_cons, SessionEvent.wroteTo?]
  by_cases same : source = other
  · subst same
    simp
  · rw [Function.update_of_ne fun as => same as.symm]
    simpa [same] using written other

/-- A source gets a session that is no task's. -/
theorem Kept.write (kept : Kept sessions run) (source : Nat) (session : Secret) :
    Kept sessions (run.write source none session) where
  written := written_write run none session kept.written
  paired := kept.paired
  targets id target value member := by
    rcases List.mem_cons.mp member with same | older
    · cases same
    · exact kept.targets id target value older

/-- An opening of a task succeeds, and the source gets its session. -/
theorem Kept.put (kept : Kept sessions run) (holds : run.tasks id = some task) (call : Nat)
    (session : Secret) :
    Kept sessions ((run.note (.completed call (some id) (.ok session))).write task.source (some id)
      session) where
  written := by
    apply written_write
    intro source
    simp only [Openings.note, List.findSome?_cons, SessionEvent.wroteTo?]
    exact kept.written source
  paired owner := by
    have before := kept.paired owner
    simp only [lastGood?] at before
    simp only [Openings.write, Openings.note, lastGood?, List.findSome?_cons, SessionEvent.good?,
      SessionEvent.wroteBy?]
    by_cases same : id = owner
    · simp [same]
    · simpa [same] using before
  targets owner source value member := by
    rcases List.mem_cons.mp member with same | older
    · obtain ⟨rfl, writer, -⟩ := SessionEvent.wrote.inj same
      obtain rfl := Option.some.inj writer
      exact ⟨task, holds, rfl⟩
    · rcases List.mem_cons.mp older with same | member
      · cases same
      · exact kept.targets owner source value member

theorem Kept.complete (kept : Kept sessions run) (orderly : Orderly run) {answer : Answer Secret}
    (present : run.openings id = some opening) (returns : opening.stage = .returning answer) :
    Kept sessions (run.complete id opening answer) := by
  obtain ⟨bootstrap, owner, stage⟩ := opening
  obtain rfl : stage = .returning answer := returns
  have placed (stage : Stage) : Kept sessions (run.place id ⟨bootstrap, owner, stage⟩) :=
    kept.aside rfl rfl rfl
  cases owner with
  | none =>
      have plain : (SessionEvent.completed id none answer).Plain := by
        simp [SessionEvent.Plain]
      exact (placed .ended).note plain
  | some owner =>
      obtain ⟨task, holds, -⟩ := orderly.employed id _ owner present rfl (by simp)
      unfold Openings.complete
      simp only [holds]
      cases answer with
      | error error =>
          have plain : (SessionEvent.completed id (some owner) (.error error)).Plain := by
            simp [SessionEvent.Plain]
          exact ((placed .ended).note plain).change holds rfl
      | ok session =>
          -- The success and the write that it comes with go on record together.
          have idle : Kept sessions ((run.place id ⟨bootstrap, some owner, .ended⟩).assign owner
              { task with errand := .idle }) := (placed .ended).change holds rfl
          exact idle.put (assign_same _ _ _) id session

theorem Moves.kept (moves : run.Moves after) (orderly : Orderly run) (kept : Kept sessions run) :
    Kept sessions after := by
  have moved (turns : Turns) (id : Nat) (opening : Opening) :
      Kept sessions ((run.withTurns turns).place id opening) := kept.aside rfl rfl rfl
  cases moves with
  | still => exact kept
  | came | began | answered | woke | left | cancelled => exact moved _ _ _
  | issued =>
      apply Kept.note (moved run.turns _ _)
      simp [SessionEvent.Plain]
  | completed present returns => exact kept.complete orderly present returns
  | spawned bootstrap source absent =>
      apply kept.assign
      intro task holds
      rw [absent] at holds
      cases holds
  | told holds => exact kept.change holds rfl
  | closed holds _ => exact kept.change holds rfl
  | @ticked id opening task holds idle absent =>
      have hired : Kept sessions (run.assign id { task with errand := .opening opening }) :=
        kept.change holds rfl
      exact hired.aside rfl rfl rfl
  | @aborted id opening task begun holds errand present =>
      have ended : Kept sessions (run.assign id { task with errand := .ended }) :=
        kept.change holds rfl
      exact ended.aside rfl rfl rfl
  | joined =>
      apply kept.note
      simp [SessionEvent.Plain]
  | wrote source session => exact kept.write source session

theorem run_kept (sessions : Nat → Secret) (acts : List Act) :
    Kept sessions (Openings.run sessions acts) :=
  run_invariant (Kept sessions) sessions acts (start_kept sessions) fun _ _ orderly moves kept =>
    moves.kept orderly kept

theorem Kept.alone (kept : Kept sessions run) (holds : run.tasks id = some task)
    (only : ∀ writer session, .wrote task.source writer session ∈ run.history →
      writer = some id) :
    run.sessions task.source = (lastGood? id run.history).getD (sessions task.source) := by
  have same : ∀ event ∈ run.history, event.wroteTo? task.source = event.wroteBy? id := by
    intro event member
    cases event with
    | wrote target writer session =>
        by_cases here : target = task.source
        · subst here
          obtain rfl := only writer session member
          simp
        · -- The task has no other target than its source.
          cases writer with
          | none => simp [here]
          | some other =>
              have foreign : other ≠ id := by
                rintro rfl
                obtain ⟨holder, present, source⟩ := kept.targets other target session member
                rw [holds] at present
                obtain rfl := Option.some.inj present
                exact here source.symm
              simp [here, foreign]
    | issued | completed | stopped => rfl
  rw [kept.written, kept.paired, ← List.head?_filterMap, ← List.head?_filterMap,
    List.filterMap_congr same]

/-- A refresh that fails changes no session. -/
theorem failed_refresh (run : Openings) (id : Nat) (opening : Opening) (error : VaultError) :
    (run.complete id opening (.error error)).sessions = run.sessions := by
  unfold Openings.complete
  cases opening.owner with
  | none => rfl
  | some owner =>
      dsimp only
      cases run.tasks owner <;> rfl

/-- Every run of any number of openings and tasks: between two commands of one opening no other one
issues a command; the source of a task that alone writes to it has the session of the last of the
task's openings that succeeded, or the one that it had to begin with; what an opening comes to is what
its dialogue results in, and with an error it changes no session; and once a task is known to have
stopped, none of its openings issues a command, none ends, and it writes no session. -/
theorem openings_take_turns (sessions : Nat → Secret) (acts : List Act) :
    let reached := Openings.run sessions acts
    (∀ later id owner last between asker first earlier,
      reached.history =
          later ++ .issued id owner last :: (between ++ .issued id asker first :: earlier) →
        ∀ other issuer command, .issued other issuer command ∈ between → other = id) ∧
    (∀ id task, reached.tasks id = some task →
      (∀ writer session, .wrote task.source writer session ∈ reached.history →
        writer = some id) →
        reached.sessions task.source =
          (lastGood? id reached.history).getD (sessions task.source)) ∧
    (∀ id owner answer, .completed id owner answer ∈ reached.history →
      ∃ opening doings, reached.openings id = some opening ∧
        opening.bootstrap.establish.Plays doings answer ∧
        commandsOf doings = issuedBy id reached.history) ∧
    (∀ id opening error, reached.openings id = some opening →
      opening.stage = .returning (.error error) →
        (reached.step (.opening id .complete)).sessions = reached.sessions) ∧
    ∀ later task earlier, reached.history = later ++ .stopped task :: earlier →
      ∀ event ∈ later, event.by? ≠ some task := by
  intro reached
  have orderly : Orderly reached := run_orderly sessions acts
  have kept : Kept sessions reached := run_kept sessions acts
  have faithful : Faithful reached := run_faithful sessions acts
  refine ⟨?_, ?_, ?_, ?_, ?_⟩
  · intro later id owner last between asker first earlier split other issuer command inside
    have unbroken := orderly.unbroken
    rw [split] at unbroken
    exact unbroken.together inside
  · exact fun id task holds only => kept.alone holds only
  · intro id owner answer member
    obtain ⟨opening, doings, present, -, plays, commands⟩ :=
      faithful.completed id owner answer member
    exact ⟨opening, doings, present, plays, commands⟩
  · intro id opening error present returns
    simp only [Openings.step, present, Openings.proceed, returns]
    exact failed_refresh reached id opening error
  · intro later task earlier split
    have silent := orderly.silent
    rw [split] at silent
    exact silent.after

/-- A task opens a session while somebody else waits for the turn and gives up. It alone writes to its
source, which has the session that it opened. -/
theorem opened_session_kept :
    let login : Bootstrap := ⟨"https://vault", .password "a@b", ⟨"master"⟩⟩
    let done : RunResult := .ok ⟨"new", "", some 0⟩
    let acts : List Act := [.spawn 0 login 7, .task 0 (.tick 0), .come 1 login,
      .opening 0 .begin, .opening 0 .issue, .opening 0 (.answer done), .opening 0 .issue,
      .opening 0 (.answer done), .opening 0 .issue, .opening 0 (.answer done), .opening 0 .issue,
      .opening 1 .cancel, .opening 0 (.answer done), .opening 0 .leave, .opening 0 .complete,
      .write 3 ⟨"other"⟩]
    let reached := Openings.run (fun _ => ⟨"old"⟩) acts
    (∃ task, reached.tasks 0 = some task ∧ task.source = 7) ∧
      (∀ writer session, .wrote 7 writer session ∈ reached.history → writer = some 0) ∧
      lastGood? 0 reached.history = some ⟨"new"⟩ ∧ reached.sessions 7 = ⟨"new"⟩ := by
  intro login done acts reached
  have there : (reached.tasks 0).map (·.source) = some 7 := by decide +kernel
  obtain ⟨task, present, source⟩ := Option.map_eq_some_iff.mp there
  have writers : reached.history.all (fun
      | .wrote 7 writer _ => writer == some 0
      | _ => true) = true := by decide +kernel
  have only (writer : Option Nat) (session : Secret)
      (wrote : .wrote 7 writer session ∈ reached.history) : writer = some 0 := by
    have shown := List.all_eq_true.mp writers (.wrote 7 writer session) wrote
    exact eq_of_beq shown
  have good : lastGood? 0 reached.history = some ⟨"new"⟩ := by decide +kernel
  obtain ⟨-, alone, -⟩ := openings_take_turns (fun _ => ⟨"old"⟩) acts
  have last := alone 0 task present (source ▸ only)
  rw [source] at last
  refine ⟨⟨task, present, source⟩, only, good, last.trans ?_⟩
  rw [good]
  rfl

end Openings
end SecretBroker.Cli
