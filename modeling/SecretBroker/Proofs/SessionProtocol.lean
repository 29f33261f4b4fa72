import SecretBroker.Proofs.LoginPhase

/-!
The order in which a session is opened, whatever the client does: the server is set, the status is
asked for, logins follow unless none is needed, and the vault is unlocked. Each step is only taken
after the ones before it, and the session is what the unlock printed.
-/

namespace SecretBroker.Cli.Bootstrap

open Dialogue

variable {bootstrap : Bootstrap} {doings : List Doing}

/-- The logins that follow on a status, with what they come to: none, or a whole phase of them. -/
def Entry (bootstrap : Bootstrap) (status : RunResult) (logins : List Doing) (phase : Answer Unit) :
    Prop :=
  (SparesLogin status ∧ logins = [] ∧ phase = .ok ()) ∨
    (¬ SparesLogin status ∧ (bootstrap.logIn 1 loginAttempts).Plays logins phase)

namespace Entry

variable {status : RunResult} {logins : List Doing} {phase : Answer Unit}

theorem commands (entry : bootstrap.Entry status logins phase) :
    ∃ issued ≤ 3, commandsOf logins = List.replicate issued bootstrap.loginCommand := by
  rcases entry with ⟨_, rfl, _⟩ | ⟨_, plays⟩
  · exact ⟨0, by decide, rfl⟩
  · obtain ⟨issued, few, commands, _⟩ := logIn_commands plays
    exact ⟨issued, few, commands⟩

theorem not_issued {command : Command} (entry : bootstrap.Entry status logins phase)
    (other : command ≠ bootstrap.loginCommand) : command ∉ commandsOf logins := by
  obtain ⟨issued, _, commands⟩ := entry.commands
  rw [commands]
  exact fun listed => other (List.eq_of_mem_replicate listed)

theorem only_logins {command : Command} {result : RunResult}
    (entry : bootstrap.Entry status logins phase) (ran : .ran command result ∈ logins) :
    command = bootstrap.loginCommand :=
  Classical.byContradiction fun other => entry.not_issued other (mem_commandsOf ran)

theorem not_ran {command : Command} {result : RunResult}
    (entry : bootstrap.Entry status logins phase) (other : command ≠ bootstrap.loginCommand) :
    .ran command result ∉ logins :=
  fun ran => other (entry.only_logins ran)

theorem login_issued (entry : bootstrap.Entry status logins phase) :
    bootstrap.loginCommand ∈ commandsOf logins ↔ ¬ SparesLogin status := by
  rcases entry with ⟨spares, rfl, _⟩ | ⟨needed, plays⟩
  · exact iff_of_false List.not_mem_nil (fun needed => needed spares)
  · obtain ⟨issued, _, commands, some⟩ := logIn_commands plays
    have positive : issued ≠ 0 := Nat.ne_of_gt (some (by decide))
    rw [commands]
    exact iff_of_true (List.mem_replicate.mpr ⟨positive, rfl⟩) needed

theorem plays_of_ran {command : Command} {result : RunResult}
    (entry : bootstrap.Entry status logins phase) (ran : .ran command result ∈ logins) :
    (bootstrap.logIn 1 loginAttempts).Plays logins phase := by
  rcases entry with ⟨_, rfl, _⟩ | ⟨_, plays⟩
  · cases ran
  · exact plays

theorem ok_iff (entry : bootstrap.Entry status logins phase) :
    phase = .ok () ↔ SparesLogin status ∨
      ∃ login, .ran bootstrap.loginCommand login ∈ logins ∧ LoggedIn login := by
  rcases entry with ⟨spares, rfl, rfl⟩ | ⟨needed, plays⟩
  · exact iff_of_true rfl (Or.inl spares)
  · rw [logIn_ok plays, or_iff_right needed]

theorem passes_on {error : VaultError} (entry : bootstrap.Entry status logins phase)
    (ran : .ran bootstrap.loginCommand (.error error) ∈ logins) : phase = .error error :=
  logIn_error (entry.plays_of_ran ran) ran

theorem fails {error : VaultError} (entry : bootstrap.Entry status logins (.error error)) :
    .ran bootstrap.loginCommand (.error error) ∈ logins ∨
      ∃ reason, error = .authFailure reason := by
  rcases entry with ⟨_, _, same⟩ | ⟨_, plays⟩
  · cases same
  · exact logIn_fails plays

theorem admits (entry : bootstrap.Entry status logins (.ok ()))
    (asked : .ran .status status ∈ doings) (within : ∀ doing ∈ logins, doing ∈ doings) :
    (∃ status, .ran .status status ∈ doings ∧ SparesLogin status) ∨
      ∃ login, .ran bootstrap.loginCommand login ∈ doings ∧ LoggedIn login := by
  rcases entry.ok_iff.mp rfl with spares | ⟨login, ran, loggedIn⟩
  · exact Or.inl ⟨status, asked, spares⟩
  · exact Or.inr ⟨login, within _ ran, loggedIn⟩

end Entry

/-- What is done to open a session, and its answer. -/
inductive Opening (bootstrap : Bootstrap) : List Doing → Answer Secret → Prop where
  | unset {config : RunResult} {error : VaultError} (fails : ¬ Succeeded config)
    (why : FailsWith config error) :
    Opening bootstrap [.ran (.configServer bootstrap.serverUrl) config] (.error error)
  | turnedAway {config status : RunResult} {logins : List Doing} {error : VaultError}
    (set : Succeeded config) (entry : bootstrap.Entry status logins (.error error)) :
    Opening bootstrap
      (.ran (.configServer bootstrap.serverUrl) config :: .ran .status status :: logins)
      (.error error)
  | entered {config status unlock : RunResult} {logins : List Doing}
    (set : Succeeded config) (entry : bootstrap.Entry status logins (.ok ())) :
    Opening bootstrap
      (.ran (.configServer bootstrap.serverUrl) config :: .ran .status status ::
        (logins ++ [.ran (.unlock bootstrap.masterPassword) unlock]))
      (unlock.bind unlockedSession)

theorem plays_setServer {answer : Answer Unit} (plays : bootstrap.setServer.Plays doings answer) :
    ∃ config, doings = [.ran (.configServer bootstrap.serverUrl) config] ∧
      ((Succeeded config ∧ answer = .ok ()) ∨
        (¬ Succeeded config ∧ ∃ error, answer = .error error ∧ FailsWith config error)) := by
  rcases plays_output_andThen plays with ⟨error, rfl, rfl⟩ | ⟨output, later, after, rfl⟩
  · refine ⟨_, rfl, Or.inr ⟨?_, error, rfl, Or.inl rfl⟩⟩
    rintro ⟨output, same, _⟩
    cases same
  · by_cases success : output.success = true
    · rw [if_pos success] at after
      obtain ⟨rfl, rfl⟩ := plays_done after
      exact ⟨_, rfl, Or.inl ⟨(succeeded_iff output).mpr success, rfl⟩⟩
    · rw [if_neg success] at after
      obtain ⟨rfl, rfl⟩ := plays_done after
      have failed : ¬ Succeeded (.ok output) := fun set => success ((succeeded_iff output).mp set)
      exact ⟨_, rfl, Or.inr ⟨failed, _, rfl, Or.inr ⟨⟨output, rfl⟩, _, rfl⟩⟩⟩

theorem plays_logInIfNeeded {answer : Answer Unit}
    (plays : bootstrap.logInIfNeeded.Plays doings answer) :
    ∃ status logins, doings = .ran .status status :: logins ∧
      bootstrap.Entry status logins answer := by
  cases plays with
  | run status rest =>
      rename_i logins
      dsimp only at rest
      by_cases told : saysLoggedIn status = true
      · rw [if_pos told] at rest
        obtain ⟨rfl, rfl⟩ := plays_done rest
        exact ⟨status, [], rfl, Or.inl ⟨(spares_iff status).mpr told, rfl, rfl⟩⟩
      · rw [if_neg told] at rest
        have needed : ¬ SparesLogin status := fun spares => told ((spares_iff status).mp spares)
        exact ⟨status, logins, rfl, Or.inr ⟨needed, rest⟩⟩

theorem plays_unlock {answer : Answer Secret} (plays : bootstrap.unlock.Plays doings answer) :
    ∃ unlock, doings = [.ran (.unlock bootstrap.masterPassword) unlock] ∧
      answer = unlock.bind unlockedSession := by
  rcases plays_output_andThen plays with ⟨error, rfl, rfl⟩ | ⟨output, later, after, rfl⟩
  · exact ⟨.error error, rfl, rfl⟩
  · obtain ⟨rfl, rfl⟩ := plays_done after
    exact ⟨.ok output, rfl, rfl⟩

theorem plays_establish {answer : Answer Secret} (plays : bootstrap.establish.Plays doings answer) :
    bootstrap.Opening doings answer := by
  rcases plays_andThen plays with ⟨error, first, rfl⟩ | ⟨_, first, later, server, rest, rfl⟩
  · obtain ⟨config, rfl, ⟨_, answered⟩ | ⟨failed, _, same, why⟩⟩ := plays_setServer first
    · cases answered
    · cases same
      exact .unset failed why
  · obtain ⟨config, rfl, ⟨set, _⟩ | ⟨_, _, same, _⟩⟩ := plays_setServer server
    · rcases plays_andThen rest with ⟨error, needs, rfl⟩ | ⟨_, entry, last, enters, opens, rfl⟩
      · obtain ⟨status, logins, rfl, entry⟩ := plays_logInIfNeeded needs
        exact .turnedAway set entry
      · obtain ⟨status, logins, rfl, entry⟩ := plays_logInIfNeeded enters
        obtain ⟨unlock, rfl, rfl⟩ := plays_unlock opens
        exact .entered set entry
    · cases same

/-! The commands of the four steps are told apart by their first argument. -/

theorem ne_of_subcommand {one other : Command} (differ : one.subcommand ≠ other.subcommand) :
    one ≠ other :=
  fun same => differ (congrArg Command.subcommand same)

theorem ne_loginCommand {command : Command} (differs : command.subcommand ≠ "login") :
    command ≠ bootstrap.loginCommand := by
  have login : bootstrap.loginCommand.subcommand = "login" := by
    unfold loginCommand
    split <;> rfl
  apply ne_of_subcommand
  rwa [login]

theorem configServer_ne_login (url : String) : .configServer url ≠ bootstrap.loginCommand :=
  ne_loginCommand (show "config" ≠ "login" by decide)

theorem status_ne_login : .status ≠ bootstrap.loginCommand :=
  ne_loginCommand (show "status" ≠ "login" by decide)

theorem unlock_ne_login (password : Secret) : .unlock password ≠ bootstrap.loginCommand :=
  ne_loginCommand (show "unlock" ≠ "login" by decide)

theorem configServer_ne_status (url : String) : Command.configServer url ≠ .status :=
  ne_of_subcommand (show "config" ≠ "status" by decide)

theorem configServer_ne_unlock (url : String) (password : Secret) :
    Command.configServer url ≠ .unlock password :=
  ne_of_subcommand (show "config" ≠ "unlock" by decide)

theorem status_ne_unlock (password : Secret) : .status ≠ Command.unlock password :=
  ne_of_subcommand (show "status" ≠ "unlock" by decide)

theorem split_at_last {first before after : List Doing} {last doing : Doing}
    (split : first ++ [last] = before ++ doing :: after) :
    (before = first ∧ doing = last ∧ after = []) ∨
      ∃ rest, after = rest ++ [last] ∧ first = before ++ doing :: rest := by
  rcases List.eq_nil_or_concat after with rfl | ⟨rest, final, rfl⟩
  · obtain ⟨rfl, same⟩ := List.append_inj' split rfl
    exact Or.inl ⟨rfl, (List.cons.inj same).1.symm, rfl⟩
  · rw [List.concat_eq_append, ← List.cons_append, ← List.append_assoc] at split
    obtain ⟨rfl, same⟩ := List.append_inj' split rfl
    rw [(List.cons.inj same).1, List.concat_eq_append]
    exact Or.inr ⟨rest, rfl, rfl⟩

namespace Opening

variable {answer : Answer Secret}

theorem ordered (opening : bootstrap.Opening doings answer) :
    ∃ logins ≤ 3, commandsOf doings <+:
      .configServer bootstrap.serverUrl :: .status ::
        (List.replicate logins bootstrap.loginCommand ++ [.unlock bootstrap.masterPassword]) := by
  cases opening with
  | unset fails why => exact ⟨0, by decide, _, rfl⟩
  | @turnedAway config status logins error set entry =>
      obtain ⟨issued, few, commands⟩ := entry.commands
      refine ⟨issued, few, ?_⟩
      change _ :: _ :: commandsOf logins <+: _
      rw [commands]
      exact ⟨[.unlock bootstrap.masterPassword], rfl⟩
  | @entered config status unlock logins set entry =>
      obtain ⟨issued, few, commands⟩ := entry.commands
      refine ⟨issued, few, ?_⟩
      change _ :: _ :: commandsOf (logins ++ _) <+: _
      rw [commandsOf_append, commands]
      exact List.prefix_rfl

theorem begins (opening : bootstrap.Opening doings answer) :
    ∃ config, .ran (.configServer bootstrap.serverUrl) config ∈ doings ∧
      (Succeeded config → ∃ status, .ran .status status ∈ doings) := by
  cases opening with
  | @unset config error fails why =>
      exact ⟨config, List.mem_cons_self, fun set => absurd set fails⟩
  | @turnedAway config status logins error set entry =>
      exact ⟨config, List.mem_cons_self, fun _ => ⟨status, by simp⟩⟩
  | @entered config status unlock logins set entry =>
      exact ⟨config, List.mem_cons_self, fun _ => ⟨status, by simp⟩⟩

theorem unlocks (opening : bootstrap.Opening doings answer)
    (admitted : (∃ status, .ran .status status ∈ doings ∧ SparesLogin status) ∨
      ∃ login, .ran bootstrap.loginCommand login ∈ doings ∧ LoggedIn login) :
    ∃ unlock, .ran (.unlock bootstrap.masterPassword) unlock ∈ doings := by
  have otherServer := (configServer_ne_status bootstrap.serverUrl).symm
  have serverNoLogin : .configServer bootstrap.serverUrl ≠ bootstrap.loginCommand :=
    configServer_ne_login _
  have statusNoLogin : .status ≠ bootstrap.loginCommand := status_ne_login
  cases opening with
  | unset fails why => simp [otherServer, serverNoLogin.symm] at admitted
  | @turnedAway config status logins error set entry =>
      -- The login phase would have been a success.
      have succeeds : SparesLogin status ∨
          ∃ login, .ran bootstrap.loginCommand login ∈ logins ∧ LoggedIn login := by
        simpa [otherServer, serverNoLogin.symm, statusNoLogin.symm,
          entry.not_ran statusNoLogin] using admitted
      cases entry.ok_iff.mpr succeeds
  | @entered config status unlock logins set entry => exact ⟨unlock, by simp⟩

theorem spared (opening : bootstrap.Opening doings answer) {asked : RunResult}
    (ran : .ran .status asked ∈ doings) :
    bootstrap.loginCommand ∉ commandsOf doings ↔ SparesLogin asked := by
  have notServer := (configServer_ne_status bootstrap.serverUrl).symm
  have notUnlock := status_ne_unlock bootstrap.masterPassword
  have login_runs {first second : Command} {result status : RunResult} {rest : List Doing}
      (other : first ≠ bootstrap.loginCommand) (another : second ≠ bootstrap.loginCommand) :
      bootstrap.loginCommand ∈ commandsOf (.ran first result :: .ran second status :: rest) ↔
        bootstrap.loginCommand ∈ commandsOf rest := by
    change _ ∈ first :: second :: commandsOf rest ↔ _
    simp [other.symm, another.symm]
  cases opening with
  | unset fails why => simp [notServer] at ran
  | @turnedAway config status logins error set entry =>
      have same : asked = status := by
        simpa [notServer, entry.not_ran status_ne_login] using ran
      rw [same, login_runs (configServer_ne_login _) status_ne_login, entry.login_issued,
        Classical.not_not]
  | @entered config status unlock logins set entry =>
      have same : asked = status := by
        simpa [notServer, notUnlock, entry.not_ran status_ne_login] using ran
      have noLogin : bootstrap.loginCommand ∉
          commandsOf [.ran (.unlock bootstrap.masterPassword) unlock] :=
        fun listed => unlock_ne_login _ (List.mem_singleton.mp listed).symm
      rw [same, login_runs (configServer_ne_login _) status_ne_login, commandsOf_append,
        List.mem_append, or_iff_left noLogin, entry.login_issued, Classical.not_not]

/-- A login of an opening is one of its login phase, which no login follows. -/
theorem login_split (opening : bootstrap.Opening doings answer) {result : RunResult}
    {before after : List Doing}
    (split : doings = before ++ .ran bootstrap.loginCommand result :: after) :
    ∃ between rest ending phase,
      (bootstrap.logIn 1 loginAttempts).Plays
        (between ++ .ran bootstrap.loginCommand result :: rest) phase ∧
      runsOf bootstrap.loginCommand before = runsOf bootstrap.loginCommand between ∧
      after = rest ++ ending ∧ bootstrap.loginCommand ∉ commandsOf ending := by
  have runs (config status : RunResult) (between : List Doing) :
      runsOf bootstrap.loginCommand (.ran (.configServer bootstrap.serverUrl) config ::
        .ran .status status :: between) = runsOf bootstrap.loginCommand between := by
    change List.count _ (_ :: _ :: commandsOf between) = _
    rw [List.count_cons_of_ne (configServer_ne_login _), List.count_cons_of_ne status_ne_login]
    rfl
  -- Neither the server's command nor the status is a login, so the run stands behind both.
  have inner {config status : RunResult} {logins : List Doing}
      (whole : .ran (.configServer bootstrap.serverUrl) config :: .ran .status status :: logins =
        before ++ .ran bootstrap.loginCommand result :: after) :
      ∃ between, before = .ran (.configServer bootstrap.serverUrl) config ::
          .ran .status status :: between ∧
        logins = between ++ .ran bootstrap.loginCommand result :: after := by
    rcases split_at_first whole with same | ⟨first, rfl, rest⟩
    · exact absurd same (configServer_ne_login _)
    · rcases split_at_first rest with same | ⟨between, rfl, found⟩
      · exact absurd same status_ne_login
      · exact ⟨between, rfl, found⟩
  cases opening with
  | unset fails why =>
      rcases split_at_first split with same | ⟨first, _, rest⟩
      · exact absurd same (configServer_ne_login _)
      · cases first <;> cases rest
  | @turnedAway config status logins error set entry =>
      obtain ⟨between, rfl, rfl⟩ := inner split
      have ran : .ran bootstrap.loginCommand result ∈
          between ++ .ran bootstrap.loginCommand result :: after := by simp
      exact ⟨between, after, [], _, entry.plays_of_ran ran, runs config status between,
        (List.append_nil after).symm, List.not_mem_nil⟩
  | @entered config status unlock logins set entry =>
      obtain ⟨between, rfl, found⟩ := inner split
      rcases split_at_last found with ⟨_, same, _⟩ | ⟨rest, rfl, rfl⟩
      · exact absurd (Doing.ran.inj same).1.symm (unlock_ne_login _)
      · have ran : .ran bootstrap.loginCommand result ∈
            between ++ .ran bootstrap.loginCommand result :: rest := by simp
        refine ⟨between, rest, _, _, entry.plays_of_ran ran, runs config status between, rfl, ?_⟩
        exact fun listed => unlock_ne_login _ (List.mem_singleton.mp listed).symm

/-- What follows on a login: another one after a pause, or no login any more. -/
theorem after_login (opening : bootstrap.Opening doings answer) {result : RunResult}
    {before after : List Doing}
    (split : doings = before ++ .ran bootstrap.loginCommand result :: after) :
    (RateLimited result ∧ runsOf bootstrap.loginCommand before < 2 ∧
      ∃ next rest, after =
        .paused (if runsOf bootstrap.loginCommand before = 0 then .ofSeconds 20
          else .ofSeconds 45) :: .ran bootstrap.loginCommand next :: rest) ∨
    (¬ (RateLimited result ∧ runsOf bootstrap.loginCommand before < 2) ∧
      bootstrap.loginCommand ∉ commandsOf after) := by
  obtain ⟨between, rest, ending, phase, plays, same, rfl, silent⟩ := opening.login_split split
  rw [same]
  rcases logIn_retries (Nat.le_refl 1) plays rfl with
    ⟨limited, more, span, next, later, pause, rfl⟩ | ⟨ends, rfl⟩
  · have few : runsOf bootstrap.loginCommand between < 2 := Nat.lt_of_succ_lt_succ more
    have waits : span =
        if runsOf bootstrap.loginCommand between = 0 then .ofSeconds 20 else .ofSeconds 45 := by
      rcases Nat.lt_or_ge (runsOf bootstrap.loginCommand between) 1 with none | one
      · have none : runsOf bootstrap.loginCommand between = 0 := Nat.lt_one_iff.mp none
        rw [none] at pause ⊢
        exact (Option.some.inj pause).symm
      · have one : runsOf bootstrap.loginCommand between = 1 := by omega
        rw [one] at pause ⊢
        exact (Option.some.inj pause).symm
    rw [← waits]
    exact Or.inl ⟨limited, few, next, later ++ ending, rfl⟩
  · refine Or.inr ⟨?_, silent⟩
    rintro ⟨limited, few⟩
    rcases ends with free | spent
    · exact free limited
    · exact absurd spent (Nat.not_le_of_lt (Nat.succ_lt_succ few))

theorem unlock_split (opening : bootstrap.Opening doings answer) {result : RunResult}
    {before after : List Doing}
    (split : doings = before ++ .ran (.unlock bootstrap.masterPassword) result :: after) :
    after = [] ∧
      (∃ config, .ran (.configServer bootstrap.serverUrl) config ∈ before ∧ Succeeded config) ∧
      ((∃ status, .ran .status status ∈ before ∧ SparesLogin status) ∨
        ∃ login, .ran bootstrap.loginCommand login ∈ before ∧ LoggedIn login) := by
  have ran : .ran (.unlock bootstrap.masterPassword) result ∈ doings := by simp [split]
  have notServer := (configServer_ne_unlock bootstrap.serverUrl bootstrap.masterPassword).symm
  have notStatus := (status_ne_unlock bootstrap.masterPassword).symm
  have notLogin : .unlock bootstrap.masterPassword ≠ bootstrap.loginCommand := unlock_ne_login _
  cases opening with
  | unset fails why => simp [notServer] at ran
  | turnedAway set entry => simp [notServer, notStatus, entry.not_ran notLogin] at ran
  | @entered config status unlock logins set entry =>
      rw [← List.cons_append, ← List.cons_append] at split
      rcases split_at_last split with ⟨rfl, _, rfl⟩ | ⟨rest, _, earlier⟩
      · exact ⟨rfl, ⟨config, by simp, set⟩, entry.admits (by simp) (by simp +contextual)⟩
      · have among : .ran (.unlock bootstrap.masterPassword) result ∈
            .ran (.configServer bootstrap.serverUrl) config :: .ran .status status :: logins := by
          simp [earlier]
        simp [notServer, notStatus, entry.not_ran notLogin] at among

theorem answered (opening : bootstrap.Opening doings answer) (session : Secret) :
    answer = .ok session ↔
      (∃ config, .ran (.configServer bootstrap.serverUrl) config ∈ doings ∧ Succeeded config) ∧
      ((∃ status, .ran .status status ∈ doings ∧ SparesLogin status) ∨
        ∃ login, .ran bootstrap.loginCommand login ∈ doings ∧ LoggedIn login) ∧
      ∃ output, .ran (.unlock bootstrap.masterPassword) (.ok output) ∈ doings ∧
        output.exit = some 0 ∧ Text.Trimmed output.stdout session.reveal ∧ session.reveal ≠ "" := by
  have notServer := (configServer_ne_unlock bootstrap.serverUrl bootstrap.masterPassword).symm
  have notStatus := (status_ne_unlock bootstrap.masterPassword).symm
  have notLogin : .unlock bootstrap.masterPassword ≠ bootstrap.loginCommand := unlock_ne_login _
  cases opening with
  | unset fails why =>
      simp [notServer]
  | turnedAway set entry =>
      simp [notServer, notStatus, entry.not_ran notLogin]
  | @entered config status unlock logins set entry =>
      -- The steps before have succeeded, so all depends on what the unlock came to.
      rw [and_iff_right ⟨config, by simp, set⟩,
        and_iff_right (entry.admits (by simp) (by simp +contextual))]
      simp only [List.mem_cons, List.mem_append, Doing.ran.injEq, notServer, notStatus,
        entry.not_ran notLogin, false_and, true_and, false_or, List.not_mem_nil, or_false]
      constructor
      · intro opened
        cases unlock with
        | error error => cases opened
        | ok output => exact ⟨output, rfl, (unlocked_ok output session).mp opened⟩
      · rintro ⟨output, rfl, printed⟩
        exact (unlocked_ok output session).mpr printed

theorem passes_on (opening : bootstrap.Opening doings answer) {command : Command}
    {error : VaultError} (other : command ≠ .status) (ran : .ran command (.error error) ∈ doings) :
    answer = .error error := by
  cases opening with
  | unset fails why =>
      obtain ⟨rfl, rfl⟩ := Doing.ran.inj (List.mem_singleton.mp ran)
      rcases why with same | ⟨⟨output, same⟩, _⟩
      · rw [Except.error.inj same]
      · cases same
  | @turnedAway config status logins failure set entry =>
      simp only [List.mem_cons, Doing.ran.injEq, other, false_and, false_or] at ran
      rcases ran with ⟨-, rfl⟩ | ran
      · obtain ⟨output, same, _⟩ := set
        cases same
      · obtain rfl := entry.only_logins ran
        rw [Except.error.inj (entry.passes_on ran)]
  | @entered config status unlock logins set entry =>
      simp only [List.mem_cons, List.mem_append, Doing.ran.injEq, other, false_and, false_or,
        List.not_mem_nil, or_false] at ran
      rcases ran with ⟨-, rfl⟩ | ran | ⟨-, rfl⟩
      · obtain ⟨output, same, _⟩ := set
        cases same
      · obtain rfl := entry.only_logins ran
        cases entry.passes_on ran
      · rfl

theorem failed (opening : bootstrap.Opening doings answer) {error : VaultError}
    (fails : answer = .error error) :
    (∃ command, command ≠ .status ∧ .ran command (.error error) ∈ doings) ∨
      ∃ reason, error = .authFailure reason := by
  cases opening with
  | unset unset why =>
      obtain rfl := Except.error.inj fails
      rcases why with rfl | ⟨_, refused⟩
      · exact Or.inl ⟨_, configServer_ne_status _, List.mem_singleton.mpr rfl⟩
      · exact Or.inr refused
  | @turnedAway config status logins failure set entry =>
      obtain rfl := Except.error.inj fails
      rcases entry.fails with ran | refused
      · exact Or.inl ⟨bootstrap.loginCommand, status_ne_login.symm, by simp [ran]⟩
      · exact Or.inr refused
  | @entered config status unlock logins set entry =>
      cases unlock with
      | error same =>
          obtain rfl := Except.error.inj fails
          exact Or.inl ⟨.unlock bootstrap.masterPassword, (status_ne_unlock _).symm, by simp⟩
      | ok output => exact Or.inr (unlocked_error output error fails)

end Opening

/-- What opening a session keeps to, for what was done and what it came to. -/
structure FollowsProtocol (bootstrap : Bootstrap) (doings : List Doing) (answer : Answer Secret) :
    Prop where
  /-- The commands are a prefix of the whole sequence, with at most three logins. -/
  ordered : ∃ logins ≤ 3, commandsOf doings <+:
    .configServer bootstrap.serverUrl :: .status ::
      (List.replicate logins bootstrap.loginCommand ++ [.unlock bootstrap.masterPassword])
  /-- Each step is taken where the ones before it allow it. -/
  taken : (∃ config, .ran (.configServer bootstrap.serverUrl) config ∈ doings ∧
      (Succeeded config → ∃ status, .ran .status status ∈ doings)) ∧
    ((∃ status, .ran .status status ∈ doings ∧ SparesLogin status) ∨
      (∃ login, .ran bootstrap.loginCommand login ∈ doings ∧ LoggedIn login) →
        ∃ unlock, .ran (.unlock bootstrap.masterPassword) unlock ∈ doings)
  /-- The logins are skipped exactly when the status tells that none is needed. -/
  spared : ∀ status, .ran .status status ∈ doings →
    (bootstrap.loginCommand ∉ commandsOf doings ↔ SparesLogin status)
  /-- Another login follows exactly on one of the first two that was turned away for its rate. -/
  retried : ∀ before result after, doings = before ++ .ran bootstrap.loginCommand result :: after →
    (bootstrap.loginCommand ∈ commandsOf after ↔
      RateLimited result ∧ runsOf bootstrap.loginCommand before < 2)
  /-- It comes right after a pause, of 20 s before the second and of 45 s before the third. -/
  waited : ∀ before result after, doings = before ++ .ran bootstrap.loginCommand result :: after →
    bootstrap.loginCommand ∈ commandsOf after →
      ∃ next rest, after =
        .paused (if runsOf bootstrap.loginCommand before = 0 then .ofSeconds 20
          else .ofSeconds 45) :: .ran bootstrap.loginCommand next :: rest
  /-- The vault is unlocked last, after the server was set and a login was spared or succeeded. -/
  unlocked : ∀ before result after,
    doings = before ++ .ran (.unlock bootstrap.masterPassword) result :: after →
      after = [] ∧
      (∃ config, .ran (.configServer bootstrap.serverUrl) config ∈ before ∧ Succeeded config) ∧
      ((∃ status, .ran .status status ∈ before ∧ SparesLogin status) ∨
        ∃ login, .ran bootstrap.loginCommand login ∈ before ∧ LoggedIn login)
  /-- A session is what the unlock printed, once every step has succeeded. -/
  answered : ∀ session, answer = .ok session ↔
    (∃ config, .ran (.configServer bootstrap.serverUrl) config ∈ doings ∧ Succeeded config) ∧
    ((∃ status, .ran .status status ∈ doings ∧ SparesLogin status) ∨
      ∃ login, .ran bootstrap.loginCommand login ∈ doings ∧ LoggedIn login) ∧
    ∃ output, .ran (.unlock bootstrap.masterPassword) (.ok output) ∈ doings ∧
      output.exit = some 0 ∧ Text.Trimmed output.stdout session.reveal ∧ session.reveal ≠ ""
  /-- The error of a run is passed on, unless it was the status that was asked for. -/
  passedOn : ∀ command error, command ≠ .status → .ran command (.error error) ∈ doings →
    answer = .error error
  /-- Every other failure is one of authentication. -/
  failed : ∀ error, answer = .error error →
    (∃ command, command ≠ .status ∧ .ran command (.error error) ∈ doings) ∨
      ∃ reason, error = .authFailure reason

theorem establish_follows_protocol (bootstrap : Bootstrap) (script : Nat → RunResult) :
    bootstrap.FollowsProtocol (bootstrap.establish.play script 0).1
      (bootstrap.establish.play script 0).2 := by
  have opening := plays_establish (play_plays script bootstrap.establish 0)
  constructor
  case ordered => exact opening.ordered
  case taken => exact ⟨opening.begins, opening.unlocks⟩
  case spared => exact fun status ran => opening.spared ran
  case retried =>
    intro before result after split
    rcases opening.after_login split with ⟨limited, few, next, rest, rfl⟩ | ⟨ends, silent⟩
    · exact iff_of_true (by simp [commandsOf, Doing.command?]) ⟨limited, few⟩
    · exact iff_of_false silent ends
  case waited =>
    intro before result after split again
    rcases opening.after_login split with ⟨_, _, next⟩ | ⟨_, silent⟩
    · exact next
    · exact absurd again silent
  case unlocked => exact fun before result after split => opening.unlock_split split
  case answered => exact opening.answered
  case passedOn => exact fun command error other ran => opening.passes_on other ran
  case failed => exact fun error fails => opening.failed fails

theorem play_spared {script : Nat → RunResult} (set : Succeeded (script 0))
    (spares : SparesLogin (script 1)) :
    (bootstrap.establish.play script 0).1 =
      [.ran (.configServer bootstrap.serverUrl) (script 0), .ran .status (script 1),
        .ran (.unlock bootstrap.masterPassword) (script 2)] := by
  obtain ⟨server, answered, exit⟩ := set
  have success : server.success = true := (succeeded_iff server).mp ⟨server, rfl, exit⟩
  have spared : saysLoggedIn (script 1) = true := (spares_iff _).mp spares
  simp only [establish, setServer, logInIfNeeded, unlock, andThen, Dialogue.output, Dialogue.bind,
    play, answered, success, spared, if_true]
  cases script 2 <;> rfl

/-- A client that is logged in, with a vault that opens. -/
def lockedClient : Nat → RunResult
  | 0 => .ok ⟨"", "", some 0⟩
  | 1 => .ok ⟨" \x7b\"status\":\"locked\"\x7d\n", "", some 0⟩
  | _ => .ok ⟨"session\n", "", some 0⟩

theorem lockedClient_spares : SparesLogin (lockedClient 1) := by
  have told : Json.Derives (.value (.text (some "locked")))
      (some '"' :: ("locked".toList.map some ++ [some '"'])) :=
    .text (Json.quoted_plain "locked" (by decide +kernel))
  have plain : "status".toList.all Json.isPlain = true := by decide +kernel
  have written : Json.Writes (.item (.object [(some "status", .text (some "locked"))]))
      "\x7b\"status\":\"locked\"\x7d".toList := by
    refine cast (congrArg (Json.Derives _) ?_) (Json.Derives.single plain told)
    decide +kernel
  refine ⟨_, "locked", rfl, ⟨"\x7b\"status\":\"locked\"\x7d", _, ?_, written, ?_⟩, Or.inl rfl⟩
  · exact (Text.trim_eq_iff _ _).mp (by decide +kernel)
  · exact @Json.Sole.member "status" [] [] _ nofun nofun

/-- The status is printed between blanks and spares the logins; the session is printed with a line
end, which it does not have. -/
theorem locked_client_spares_logins :
    let bootstrap : Bootstrap := ⟨"https://vault.test", .password "me@vault.test", ⟨"password"⟩⟩
    let opening := bootstrap.establish.play lockedClient 0
    SparesLogin (lockedClient 1) ∧ bootstrap.loginCommand ∉ commandsOf opening.1 ∧
      opening.2 = .ok ⟨"session"⟩ := by
  intro bootstrap opening
  have protocol : bootstrap.FollowsProtocol opening.1 opening.2 :=
    establish_follows_protocol bootstrap lockedClient
  have set : Succeeded (lockedClient 0) := ⟨_, rfl, rfl⟩
  have played : opening.1 = _ := play_spared set lockedClient_spares
  have server : .ran (.configServer bootstrap.serverUrl) (lockedClient 0) ∈ opening.1 := by
    simp [played]
  have asked : .ran .status (lockedClient 1) ∈ opening.1 := by simp [played]
  have opened : .ran (.unlock bootstrap.masterPassword) (.ok ⟨"session\n", "", some 0⟩) ∈
      opening.1 := by simp [played, lockedClient]
  refine ⟨lockedClient_spares, (protocol.spared _ asked).mpr lockedClient_spares, ?_⟩
  refine (protocol.answered _).mpr
    ⟨⟨_, server, set⟩, Or.inl ⟨_, asked, lockedClient_spares⟩, _, opened, rfl, ?_, ?_⟩
  · exact (Text.trim_eq_iff _ _).mp (by decide +kernel)
  · decide

end SecretBroker.Cli.Bootstrap
