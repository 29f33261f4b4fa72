import SecretBroker.Proofs.SessionCalls
import SecretBroker.Proofs.TurnQueue

/-!
Openings of sessions take turns. One that is talking to the client holds the turn, so the commands of
two openings never mix; and a source to which only one task writes has the session of the last of
the task's openings that succeeded.
-/

namespace SecretBroker.Cli

def Stage.Begun : Stage → Prop
  | .talking _ | .waiting _ => True
  | .queued | .returning _ | .ended => False

/-- The opening has issued a command. -/
def Issued (history : List SessionEvent) (id : Nat) : Prop :=
  ∃ owner command, .issued id owner command ∈ history

/-- Since the opening issued a command another one has issued one. -/
inductive Outspoken (id : Nat) : List SessionEvent → Prop where
  | here {other : Nat} {owner : Option Nat} {command : Command} {earlier : List SessionEvent}
    (differs : other ≠ id) (before : Issued earlier id) :
    Outspoken id (.issued other owner command :: earlier)
  | since {event : SessionEvent} {earlier : List SessionEvent} (before : Outspoken id earlier) :
    Outspoken id (event :: earlier)

/-- No opening issues a command once it is outspoken. -/
def Unbroken : List SessionEvent → Prop
  | [] => True
  | event :: earlier =>
    (∀ id owner command, event = .issued id owner command → ¬ Outspoken id earlier) ∧
      Unbroken earlier

/-- The task that does it, or for which it is done. -/
def SessionEvent.by? : SessionEvent → Option Nat
  | .issued _ owner _ | .completed _ owner _ => owner
  | .wrote _ task _ => task
  | .stopped _ => none

/-- Nothing is done by a task or for it after it was known to have stopped. -/
def Silent : List SessionEvent → Prop
  | [] => True
  | event :: earlier =>
    (∀ task, event.by? = some task → .stopped task ∉ earlier) ∧ Silent earlier

variable {history later earlier between : List SessionEvent} {id : Nat}

theorem Issued.cons (issued : Issued history id) (event : SessionEvent) :
    Issued (event :: history) id := by
  obtain ⟨owner, command, member⟩ := issued
  exact ⟨owner, command, List.mem_cons_of_mem _ member⟩

theorem Outspoken.issued (outspoken : Outspoken id history) : Issued history id := by
  induction outspoken with
  | here differs before => exact before.cons _
  | since before ih => exact ih.cons _

theorem Outspoken.of_split {other : Nat} {owner : Option Nat} {command : Command}
    (differs : other ≠ id) (before : Issued earlier id) :
    Outspoken id (later ++ .issued other owner command :: earlier) := by
  induction later with
  | nil => exact .here differs before
  | cons event rest ih => exact .since ih

theorem Unbroken.suffix (unbroken : Unbroken (later ++ earlier)) : Unbroken earlier := by
  induction later with
  | nil => exact unbroken
  | cons event rest ih => exact ih unbroken.2

/-- Between two commands of one opening there are none of others. -/
theorem Unbroken.together {owner asker : Option Nat} {last first : Command}
    (unbroken : Unbroken
      (later ++ .issued id owner last :: (between ++ .issued id asker first :: earlier)))
    {other : Nat} {issuer : Option Nat} {command : Command}
    (inside : .issued other issuer command ∈ between) : other = id := by
  by_contra differs
  obtain ⟨after, before, rfl⟩ := List.append_of_mem inside
  have quiet := unbroken.suffix.1 id owner last rfl
  apply quiet
  rw [List.append_assoc, List.cons_append]
  apply Outspoken.of_split differs
  exact ⟨asker, first, by simp⟩

theorem Silent.after {task : Nat} (silent : Silent (later ++ .stopped task :: earlier)) :
    ∀ event ∈ later, event.by? ≠ some task := by
  induction later with
  | nil => simp
  | cons event rest ih =>
      intro other member
      rcases List.mem_cons.mp member with rfl | older
      · intro acts
        exact silent.1 task acts (by simp)
      · exact ih silent.2 other older

namespace Openings

variable {run after : Openings} {opening : Opening} {task : SessionTask}

/-- Everything that one act can do. -/
inductive Moves (run : Openings) : Openings → Prop where
  | still : Moves run run
  | came {id : Nat} (bootstrap : Bootstrap) (absent : run.openings id = none) :
    Moves run (run.enter id bootstrap none)
  | began {id : Nat} {opening : Opening} (present : run.openings id = some opening)
    (queued : opening.stage = .queued) (holder : run.turns.holder = some id) :
    Moves run (run.place id { opening with stage := .talking opening.bootstrap.establish })
  | issued {id : Nat} {opening : Opening} {command : Command}
    {next : RunResult → Dialogue (Answer Secret)} (present : run.openings id = some opening)
    (talks : opening.stage = .talking (.run command next)) :
    Moves run ((run.place id { opening with stage := .waiting next }).note
      (.issued id opening.owner command))
  | answered {id : Nat} {opening : Opening} {next : RunResult → Dialogue (Answer Secret)}
    (result : RunResult) (present : run.openings id = some opening)
    (waits : opening.stage = .waiting next) :
    Moves run (run.place id { opening with stage := .talking (next result) })
  | woke {id : Nat} {opening : Opening} {span : Span} {next : Dialogue (Answer Secret)}
    (present : run.openings id = some opening)
    (talks : opening.stage = .talking (.pause span next)) :
    Moves run (run.place id { opening with stage := .talking next })
  | left {id : Nat} {opening : Opening} {answer : Answer Secret}
    (present : run.openings id = some opening) (talks : opening.stage = .talking (.done answer)) :
    Moves run (run.quit id opening (.returning answer))
  | completed {id : Nat} {opening : Opening} {answer : Answer Secret}
    (present : run.openings id = some opening) (returns : opening.stage = .returning answer) :
    Moves run (run.complete id opening answer)
  | cancelled {id : Nat} {opening : Opening} (present : run.openings id = some opening)
    (free : opening.owner = none) : Moves run (run.quit id opening .ended)
  | spawned {id : Nat} (bootstrap : Bootstrap) (source : Nat) (absent : run.tasks id = none) :
    Moves run (run.assign id ⟨bootstrap, source, .idle, false⟩)
  | ticked {id opening : Nat} {task : SessionTask} (holds : run.tasks id = some task)
    (idle : task.errand = .idle) (absent : run.openings opening = none) :
    Moves run ((run.assign id { task with errand := .opening opening }).enter opening
      task.bootstrap (some id))
  | told {id : Nat} {task : SessionTask} (holds : run.tasks id = some task) :
    Moves run (run.assign id { task with told := true })
  | closed {id : Nat} {task : SessionTask} (holds : run.tasks id = some task)
    (elsewhere : ∀ opening begun, task.errand = .opening opening →
      run.openings opening ≠ some begun) :
    Moves run (run.assign id { task with errand := .ended })
  | aborted {id opening : Nat} {task : SessionTask} {begun : Opening}
    (holds : run.tasks id = some task) (errand : task.errand = .opening opening)
    (present : run.openings opening = some begun) :
    Moves run ((run.quit opening begun .ended).assign id { task with errand := .ended })
  | joined {id : Nat} {task : SessionTask} (holds : run.tasks id = some task)
    (closed : task.errand = .ended) (told : task.told = true) : Moves run (run.note (.stopped id))
  | wrote (source : Nat) (session : Secret) : Moves run (run.write source none session)

theorem proceed_moves {id : Nat} (present : run.openings id = some opening) (deed : Deed) :
    run.Moves (run.proceed id opening deed) := by
  unfold Openings.proceed
  split
  · rename_i queued
    split
    · rename_i holds
      exact .began present queued (Turns.holds_iff.mp holds)
    · exact .still
  · rename_i talks
    exact .issued present talks
  · rename_i result next waits
    exact .answered result present waits
  · rename_i talks
    exact .woke present talks
  · rename_i talks
    exact .left present talks
  · rename_i returns
    exact .completed present returns
  · split
    · rename_i free
      exact .cancelled present (Option.isNone_iff_eq_none.mp free)
    · exact .still
  · exact .still

theorem attend_moves {id : Nat} (holds : run.tasks id = some task) (deed : TaskDeed) :
    run.Moves (run.attend id task deed) := by
  unfold Openings.attend
  split
  · rename_i opening idle
    split
    · rename_i absent
      exact .ticked holds idle absent
    · exact .still
  · exact .told holds
  · rename_i idle
    split
    · exact .closed holds (by simp [idle])
    · exact .still
  · rename_i opening errand
    split
    · rename_i begun present
      exact .aborted holds errand present
    · rename_i absent
      apply Moves.closed holds
      intro other begun same present
      rw [errand] at same
      obtain rfl := Errand.opening.inj same
      rw [absent] at present
      cases present
  · rename_i elsewhere
    exact .closed holds fun opening _ errand => absurd errand (elsewhere opening)
  · rename_i closed
    split
    · rename_i told
      exact .joined holds closed told
    · exact .still
  · exact .still

theorem step_moves (run : Openings) (act : Act) : run.Moves (run.step act) := by
  cases act with
  | come id bootstrap =>
      simp only [Openings.step]
      split
      · rename_i absent
        exact .came bootstrap absent
      · exact .still
  | opening id deed =>
      simp only [Openings.step]
      split
      · rename_i opening present
        exact proceed_moves present deed
      · exact .still
  | spawn id bootstrap source =>
      simp only [Openings.step]
      split
      · rename_i absent
        exact .spawned bootstrap source absent
      · exact .still
  | task id deed =>
      simp only [Openings.step]
      split
      · rename_i task holds
        exact attend_moves holds deed
      · exact .still
  | write source session => exact .wrote source session

theorem place_same (run : Openings) (id : Nat) (opening : Opening) :
    (run.place id opening).openings id = some opening :=
  Function.update_self _ _ _

theorem place_other (run : Openings) {id other : Nat} (opening : Opening) (differs : other ≠ id) :
    (run.place id opening).openings other = run.openings other :=
  Function.update_of_ne differs _ _

theorem place_cases {id other : Nat} {placed there : Opening}
    (present : (run.place id placed).openings other = some there) :
    (other = id ∧ there = placed) ∨ (other ≠ id ∧ run.openings other = some there) := by
  by_cases same : other = id
  · subst same
    rw [place_same] at present
    exact Or.inl ⟨rfl, (Option.some.inj present).symm⟩
  · rw [place_other _ _ same] at present
    exact Or.inr ⟨same, present⟩

theorem assign_same (run : Openings) (id : Nat) (task : SessionTask) :
    (run.assign id task).tasks id = some task :=
  Function.update_self _ _ _

theorem assign_other (run : Openings) {id other : Nat} (task : SessionTask)
    (differs : other ≠ id) : (run.assign id task).tasks other = run.tasks other :=
  Function.update_of_ne differs _ _

structure Orderly (run : Openings) : Prop where
  held : ∀ id opening, run.openings id = some opening → opening.stage.Begun →
    run.turns.holder = some id
  spoken : ∀ id, Issued run.history id →
    ∃ opening, run.openings id = some opening ∧ opening.stage ≠ .queued
  quiet : ∀ id opening, run.openings id = some opening → opening.stage.Begun →
    ¬ Outspoken id run.history
  unbroken : Unbroken run.history
  employed : ∀ id opening owner, run.openings id = some opening → opening.owner = some owner →
    opening.stage ≠ .ended → ∃ task, run.tasks owner = some task ∧ task.errand = .opening id
  stopped : ∀ id, .stopped id ∈ run.history →
    ∃ task, run.tasks id = some task ∧ task.errand = .ended
  silent : Silent run.history

theorem start_orderly (sessions : Nat → Secret) : Orderly (start sessions) where
  held _ _ present := by cases present
  spoken _ issued := by
    obtain ⟨owner, command, member⟩ := issued
    cases member
  quiet _ _ present := by cases present
  unbroken := trivial
  employed _ _ _ present := by cases present
  stopped _ member := by cases member
  silent := trivial

/-- An opening of a task that has not ended is the one that the task is at. -/
theorem Orderly.errand (orderly : Orderly run) {owner : Nat} (holds : run.tasks owner = some task)
    {id : Nat} (present : run.openings id = some opening) (owned : opening.owner = some owner)
    (going : opening.stage ≠ .ended) : task.errand = .opening id := by
  obtain ⟨other, same, errand⟩ := orderly.employed id opening owner present owned going
  rw [holds] at same
  obtain rfl := Option.some.inj same
  exact errand

/-- All openings of a task have ended. -/
def Free (run : Openings) (owner : Nat) : Prop :=
  ∀ id opening, run.openings id = some opening → opening.owner = some owner → opening.stage = .ended

theorem Orderly.free (orderly : Orderly run) {owner : Nat} (holds : run.tasks owner = some task)
    (elsewhere : ∀ id opening, task.errand = .opening id → run.openings id ≠ some opening) :
    Free run owner := by
  intro id opening present owned
  by_contra going
  exact elsewhere id opening (orderly.errand holds present owned going) present

/-- Once the opening that a task is at has ended, all of them have. -/
theorem Orderly.freed (orderly : Orderly run) {owner : Nat} (holds : run.tasks owner = some task)
    (errand : task.errand = .opening id) (opening : Opening) (turns : Turns) :
    Free ((run.withTurns turns).place id { opening with stage := .ended }) owner := by
  intro other talk there owned
  rcases place_cases there with ⟨rfl, rfl⟩ | ⟨differs, before⟩
  · rfl
  · by_contra going
    have also := orderly.errand holds before owned going
    rw [errand] at also
    exact differs (Errand.opening.inj also).symm

theorem Orderly.enter (orderly : Orderly run) {id : Nat} (bootstrap : Bootstrap)
    {owner : Option Nat} (absent : run.openings id = none)
    (hired : ∀ employer, owner = some employer →
      ∃ task, run.tasks employer = some task ∧ task.errand = .opening id) :
    Orderly (run.enter id bootstrap owner) where
  held other opening present begun := by
    rcases place_cases present with ⟨rfl, rfl⟩ | ⟨_, before⟩
    · exact begun.elim
    · exact Turns.ask_holder (orderly.held other opening before begun)
  spoken other issued := by
    obtain ⟨opening, before, asked⟩ := orderly.spoken other issued
    have differs : other ≠ id := by
      rintro rfl
      rw [absent] at before
      cases before
    exact ⟨opening, (place_other _ _ differs).trans before, asked⟩
  quiet other opening present begun := by
    rcases place_cases present with ⟨rfl, rfl⟩ | ⟨_, before⟩
    · exact begun.elim
    · exact orderly.quiet other opening before begun
  unbroken := orderly.unbroken
  employed other opening employer present owned going := by
    rcases place_cases present with ⟨rfl, rfl⟩ | ⟨_, before⟩
    · exact hired employer owned
    · exact orderly.employed other opening employer before owned going
  stopped := orderly.stopped
  silent := orderly.silent

/-- An opening comes to another stage. It may have the turn then, or have left it. -/
theorem Orderly.place (orderly : Orderly run) {turns : Turns} {stage : Stage}
    (present : run.openings id = some opening)
    (others : ∀ other, other ≠ id → run.turns.holder = some other → turns.holder = some other)
    (asked : stage ≠ .queued) (holds : stage.Begun → turns.holder = some id)
    (fresh : stage.Begun → opening.stage.Begun ∨ opening.stage = .queued)
    (going : stage ≠ .ended → opening.stage ≠ .ended) :
    Orderly ((run.withTurns turns).place id { opening with stage }) where
  held other there moved begun := by
    rcases place_cases moved with ⟨rfl, rfl⟩ | ⟨differs, before⟩
    · exact holds begun
    · exact others other differs (orderly.held other there before begun)
  spoken other issued := by
    by_cases same : other = id
    · subst same
      exact ⟨_, place_same _ _ _, asked⟩
    · obtain ⟨there, before, spoke⟩ := orderly.spoken other issued
      exact ⟨there, (place_other _ _ same).trans before, spoke⟩
  quiet other there moved begun := by
    rcases place_cases moved with ⟨rfl, rfl⟩ | ⟨_, before⟩
    · rcases fresh begun with already | queued
      · exact orderly.quiet other opening present already
      · -- Whoever has not begun has issued nothing.
        intro outspoken
        obtain ⟨same, before, spoke⟩ := orderly.spoken other outspoken.issued
        rw [present] at before
        obtain rfl := Option.some.inj before
        exact spoke queued
    · exact orderly.quiet other there before begun
  unbroken := orderly.unbroken
  employed other there owner moved owned active := by
    rcases place_cases moved with ⟨rfl, rfl⟩ | ⟨_, before⟩
    · exact orderly.employed other opening owner present owned (going active)
    · exact orderly.employed other there owner before owned active
  stopped := orderly.stopped
  silent := orderly.silent

theorem Orderly.assign (orderly : Orderly run) {owner : Nat} {task : SessionTask}
    (employs : ∀ id opening, run.openings id = some opening → opening.owner = some owner →
      opening.stage ≠ .ended → task.errand = .opening id)
    (ended : .stopped owner ∈ run.history → task.errand = .ended) :
    Orderly (run.assign owner task) where
  held := orderly.held
  spoken := orderly.spoken
  quiet := orderly.quiet
  unbroken := orderly.unbroken
  employed id opening employer present owned going := by
    by_cases same : employer = owner
    · subst same
      exact ⟨task, assign_same _ _ _, employs id opening present owned going⟩
    · rw [assign_other _ _ same]
      exact orderly.employed id opening employer present owned going
  stopped id member := by
    by_cases same : id = owner
    · subst same
      exact ⟨task, assign_same _ _ _, ended member⟩
    · rw [assign_other _ _ same]
      exact orderly.stopped id member
  silent := orderly.silent

theorem Orderly.note (orderly : Orderly run) {event : SessionEvent}
    (speaks : ∀ id owner command, event = .issued id owner command →
      ∃ opening, run.openings id = some opening ∧ opening.stage.Begun)
    (acts : ∀ owner, event.by? = some owner → .stopped owner ∉ run.history)
    (stops : ∀ id, event = .stopped id → ∃ task, run.tasks id = some task ∧ task.errand = .ended) :
    Orderly (run.note event) where
  held := orderly.held
  spoken id issued := by
    obtain ⟨owner, command, member⟩ := issued
    rcases List.mem_cons.mp member with same | older
    · obtain ⟨opening, present, begun⟩ := speaks id owner command same.symm
      refine ⟨opening, present, ?_⟩
      intro queued
      rw [queued] at begun
      exact begun
    · exact orderly.spoken id ⟨owner, command, older⟩
  quiet id opening present begun := by
    intro outspoken
    cases outspoken with
    | here differs before =>
        -- Two openings that have both begun would both hold the turn.
        obtain ⟨other, talks, also⟩ := speaks _ _ _ rfl
        have mine := orderly.held id opening present begun
        have theirs := orderly.held _ other talks also
        exact differs (Option.some.inj (theirs.symm.trans mine))
    | since before => exact orderly.quiet id opening present begun before
  unbroken := by
    refine ⟨?_, orderly.unbroken⟩
    intro id owner command same
    obtain ⟨opening, present, begun⟩ := speaks id owner command same
    exact orderly.quiet id opening present begun
  employed := orderly.employed
  stopped id member := by
    rcases List.mem_cons.mp member with same | older
    · exact stops id same.symm
    · exact orderly.stopped id older
  silent := ⟨acts, orderly.silent⟩

theorem Orderly.quit (orderly : Orderly run) {stage : Stage}
    (present : run.openings id = some opening) (asked : stage ≠ .queued) (done : ¬ stage.Begun)
    (going : stage ≠ .ended → opening.stage ≠ .ended) : Orderly (run.quit id opening stage) := by
  apply orderly.place present _ asked (fun begun => absurd begun done)
    (fun begun => absurd begun done) going
  intro other differs holder
  have waits : run.turns.holder ≠ some id := by
    rw [holder]
    exact fun same => differs (Option.some.inj same)
  rw [Turns.leave_waiting waits]
  exact holder

/-- A task with an opening that has not ended is not known to have stopped. -/
theorem Orderly.active (orderly : Orderly run) {owner : Nat} (present : run.openings id = some opening)
    (owned : opening.owner = some owner) (going : opening.stage ≠ .ended) :
    .stopped owner ∉ run.history := by
  intro member
  obtain ⟨task, holds, ended⟩ := orderly.stopped owner member
  rw [orderly.errand holds present owned going] at ended
  cases ended

theorem Orderly.write (orderly : Orderly run) (source : Nat) {writer : Option Nat} (session : Secret)
    (acts : ∀ owner, writer = some owner → .stopped owner ∉ run.history) :
    Orderly (run.write source writer session) := by
  have same : Orderly { run with
      sessions := Function.update run.sessions source session } :=
    ⟨orderly.held, orderly.spoken, orderly.quiet, orderly.unbroken, orderly.employed,
      orderly.stopped, orderly.silent⟩
  exact same.note (by simp) acts (by simp)

theorem Orderly.issue (orderly : Orderly run) {command : Command}
    {next : RunResult → Dialogue (Answer Secret)} (present : run.openings id = some opening)
    (talks : opening.stage = .talking (.run command next)) :
    Orderly ((run.place id { opening with stage := .waiting next }).note
      (.issued id opening.owner command)) := by
  have begun : opening.stage.Begun := by rw [talks]; trivial
  have going : opening.stage ≠ .ended := by rw [talks]; simp
  have placed : Orderly (run.place id { opening with stage := .waiting next }) :=
    orderly.place present (fun _ _ holder => holder) (by simp)
      (fun _ => orderly.held id opening present begun) (fun _ => .inl begun) (fun _ => going)
  apply placed.note
  · intro other owner spoken same
    obtain ⟨rfl, -, -⟩ := SessionEvent.issued.inj same
    exact ⟨_, place_same _ _ _, trivial⟩
  · exact fun owner owned => orderly.active present owned going
  · simp

theorem Orderly.retire (orderly : Orderly run) {answer : Answer Secret}
    (present : run.openings id = some opening) (returns : opening.stage = .returning answer) :
    Orderly ((run.place id { opening with stage := .ended }).note
      (.completed id opening.owner answer)) := by
  have placed : Orderly (run.place id { opening with stage := .ended }) :=
    orderly.place present (fun _ _ holder => holder) (by simp) False.elim False.elim
      (fun going => absurd rfl going)
  apply placed.note (by simp)
  · exact fun owner owned => orderly.active present owned (by rw [returns]; simp)
  · simp

/-- A task with no opening goes on to another errand, which is none. -/
theorem Orderly.released (orderly : Orderly run) {owner : Nat} (task : SessionTask) (errand : Errand)
    (free : Free run owner) (ended : .stopped owner ∈ run.history → errand = .ended) :
    Orderly (run.assign owner { task with errand }) := by
  apply orderly.assign
  · exact fun id opening present owned going => absurd (free id opening present owned) going
  · exact ended

theorem Orderly.deliver (orderly : Orderly run) {owner : Nat} (task : SessionTask)
    (answer : Answer Secret) (free : Free run owner) (kept : .stopped owner ∉ run.history) :
    Orderly (run.deliver owner task answer) := by
  have idle := orderly.released task .idle free fun member => absurd member kept
  cases answer with
  | error error => exact idle
  | ok session =>
      apply idle.write
      intro employer same
      obtain rfl := Option.some.inj same
      exact kept

theorem Orderly.complete (orderly : Orderly run) {answer : Answer Secret}
    (present : run.openings id = some opening) (returns : opening.stage = .returning answer) :
    Orderly (run.complete id opening answer) := by
  have going : opening.stage ≠ .ended := by rw [returns]; simp
  have done := orderly.retire present returns
  unfold Openings.complete
  cases owned : opening.owner with
  | none => simpa only [owned] using done
  | some owner =>
      obtain ⟨task, holds, errand⟩ := orderly.employed id opening owner present owned going
      simp only [holds]
      rw [← owned]
      apply done.deliver
      · exact orderly.freed holds errand opening run.turns
      · intro member
        rcases List.mem_cons.mp member with same | older
        · cases same
        · exact orderly.active present owned going older

/-- An opening that has begun goes on. -/
theorem Orderly.talk (orderly : Orderly run) {stage : Stage}
    (present : run.openings id = some opening) (begun : opening.stage.Begun)
    (next : stage.Begun) : Orderly (run.place id { opening with stage }) := by
  apply orderly.place present (fun _ _ holder => holder)
  · rintro rfl
    exact next
  · exact fun _ => orderly.held id opening present begun
  · exact fun _ => .inl begun
  · intro _ same
    rw [same] at begun
    exact begun

theorem Orderly.closed (orderly : Orderly run) {owner : Nat} (holds : run.tasks owner = some task)
    (member : .stopped owner ∈ run.history) : task.errand = .ended := by
  obtain ⟨other, same, closed⟩ := orderly.stopped owner member
  rw [holds] at same
  obtain rfl := Option.some.inj same
  exact closed

theorem Moves.orderly (moves : run.Moves after) (orderly : Orderly run) : Orderly after := by
  cases moves with
  | still => exact orderly
  | came bootstrap absent => exact orderly.enter bootstrap absent (by simp)
  | began present queued holder =>
      apply orderly.place present (fun _ _ held => held) (by simp) (fun _ => holder)
        (fun _ => .inr queued)
      intro _ same
      rw [queued] at same
      cases same
  | issued present talks => exact orderly.issue present talks
  | answered result present waits => exact orderly.talk present (by rw [waits]; trivial) trivial
  | woke present talks => exact orderly.talk present (by rw [talks]; trivial) trivial
  | left present talks =>
      exact orderly.quit present (by simp) False.elim (fun _ => by rw [talks]; simp)
  | completed present returns => exact orderly.complete present returns
  | cancelled present free =>
      exact orderly.quit present (by simp) False.elim (fun going => absurd rfl going)
  | @spawned id bootstrap source absent =>
      -- Nothing is known of a task that is new.
      apply orderly.assign
      · intro other opening present owned going
        obtain ⟨task, holds, _⟩ := orderly.employed other opening id present owned going
        rw [absent] at holds
        cases holds
      · intro member
        obtain ⟨task, holds, _⟩ := orderly.stopped id member
        rw [absent] at holds
        cases holds
  | @ticked owner opening task holds idle absent =>
      have hired : Orderly (run.assign owner { task with errand := .opening opening }) := by
        apply orderly.released task _ (orderly.free holds (by simp [idle]))
        intro member
        rw [orderly.closed holds member] at idle
        cases idle
      apply hired.enter task.bootstrap absent
      intro employer same
      obtain rfl := Option.some.inj same
      exact ⟨_, assign_same _ _ _, rfl⟩
  | @told owner task holds =>
      have ended (member : .stopped owner ∈ run.history) : task.errand = .ended :=
        orderly.closed holds member
      apply orderly.assign
      · exact fun id opening present owned going => orderly.errand holds present owned going
      · exact ended
  | closed holds elsewhere =>
      exact orderly.released _ .ended (orderly.free holds elsewhere) fun _ => rfl
  | @aborted owner opening task begun holds errand present =>
      have ended : Orderly (run.quit opening begun .ended) :=
        orderly.quit present (by simp) False.elim (fun going => absurd rfl going)
      exact ended.released task .ended (orderly.freed holds errand begun _) fun _ => rfl
  | joined holds closed told =>
      apply orderly.note (by simp) (by simp [SessionEvent.by?])
      intro id same
      obtain rfl := SessionEvent.stopped.inj same
      exact ⟨_, holds, closed⟩
  | wrote source session => exact orderly.write source session (by simp)

theorem run_orderly (sessions : Nat → Secret) (acts : List Act) : Orderly (Openings.run sessions acts) :=
  List.foldlRecOn acts Openings.step (start_orderly sessions) fun run orderly act _ =>
    (run.step_moves act).orderly orderly

/-- What is kept by the acts of openings that take their turns holds of every run. -/
theorem run_invariant (holds : Openings → Prop) (sessions : Nat → Secret) (acts : List Act)
    (initially : holds (start sessions))
    (kept : ∀ run after, Orderly run → run.Moves after → holds run → holds after) :
    holds (Openings.run sessions acts) := by
  have both := List.foldlRecOn (motive := fun run => Orderly run ∧ holds run) acts Openings.step
    ⟨start_orderly sessions, initially⟩ <| by
      rintro run ⟨orderly, held⟩ act _
      have moves := run.step_moves act
      exact ⟨moves.orderly orderly, kept run _ orderly moves held⟩
  exact both.2

end Openings
end SecretBroker.Cli
