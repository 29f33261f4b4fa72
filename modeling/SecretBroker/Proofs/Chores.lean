import SecretBroker.Proofs.AcceptedSettings
import SecretBroker.Proofs.CacheEntries
import SecretBroker.Rehearsal.Connected

/-!
What a service does at every period beside its requests, and with what periods the settings start
it: the cache is swept, the session of the command line client is renewed, and the published ranges
are refreshed. Main results: `Settings.Accepted.period_nonzero`, `sweeping_starts`, and
`renewal_starts`.
-/

namespace SecretBroker

inductive Chore where
  | sweeping
  | renewal
  | publication
  deriving DecidableEq, Repr

/-- A session is renewed if the service has opened it itself. -/
def Strategy.opensSession : Strategy → Bool
  | .cliBootstrap _ _ => true
  | .api _ | .cliSession _ => false

/-- The period of a chore if the settings start it. -/
def Settings.period? (settings : Settings) : Chore → Option Span
  | .sweeping => if settings.vault.cacheTtl.isZero then none else some settings.vault.cacheTtl
  | .renewal =>
    if settings.vault.sessionRefresh.isZero then none
    else if settings.vault.strategy.toOption.any Strategy.opensSession then
      some settings.vault.sessionRefresh
    else none
  | .publication =>
    if settings.security.githubRanges then some settings.security.githubRefresh else none

theorem Settings.Accepted.period_nonzero {settings : Settings} (accepted : settings.Accepted)
    {chore : Chore} {period : Span} (starts : settings.period? chore = some period) :
    period.isZero = false := by
  cases chore with
  | sweeping =>
      obtain ⟨lives, same⟩ := Option.ite_none_left_eq_some.mp starts
      cases same
      simpa using lives
  | renewal =>
      obtain ⟨renews, opens⟩ := Option.ite_none_left_eq_some.mp starts
      obtain ⟨_, same⟩ := Option.ite_none_right_eq_some.mp opens
      cases same
      simpa using renews
  | publication =>
      obtain ⟨enabled, same⟩ := Option.ite_none_right_eq_some.mp starts
      cases same
      exact accepted.refreshed enabled

theorem sweeping_iff (settings : Settings) (period : Span) :
    settings.period? .sweeping = some period ↔
      0 < settings.vault.cacheTtl.total ∧ settings.vault.cacheTtl = period := by
  have lives := (Cache.empty settings.vault.cacheTtl).enabled_iff
  simp only [Cache.isEnabled, Cache.empty, Bool.not_eq_true'] at lives
  rw [← lives, Settings.period?, Option.ite_none_left_eq_some, Bool.not_eq_true, Option.some.injEq]

/-- A sweeper starts if its first tick is an instant. -/
theorem sweeping_starts (settings : Settings) (now : Instant) :
    Sweeper.start? (.empty settings.vault.cacheTtl) now =
      (settings.period? .sweeping).bind fun period =>
        (Instant.after now period).map fun _ => ⟨now, period⟩ := by
  unfold Sweeper.start? Settings.period? Cache.isEnabled Cache.empty
  dsimp only
  cases settings.vault.cacheTtl.isZero with
  | true => rfl
  | false =>
      simp only [Bool.not_false, Bool.true_and, Bool.false_eq_true, if_false, Option.bind_some]
      cases Instant.after now settings.vault.cacheTtl <;> rfl

namespace Rehearsal.Sessions

variable {run : Sessions}

theorem refreshed_idle (idle : run.refresh = none) (id : Nat) (upshot : Upshot) :
    (run.refreshed id upshot).refresh = none := by
  simp [refreshed, idle]

theorem proceed_idle (id : Nat) (talk : Cli.Dialogue Upshot) (idle : run.refresh = none) :
    (proceed id talk run).refresh = none := by
  induction talk generalizing run with
  | done upshot =>
      unfold proceed finish
      apply refreshed_idle
      exact idle
  | pause span next _ => exact idle
  | run command next ih =>
      unfold proceed
      dsimp only
      split
      · exact ih _ idle
      · exact idle

/-- Without a refresh task none is started by the steps of a run. -/
theorem step_idle {limit : Instant} {next : Sessions} (idle : run.refresh = none)
    (steps : run.step limit = some next) : next.refresh = none := by
  have quiet : run.tick? = none := by
    rw [tick?, idle]
    rfl
  unfold step at steps
  cases ready : run.ready with
  | cons task rest =>
      rw [ready] at steps
      cases steps
      exact proceed_idle task.id task.talk idle
  | nil =>
      -- No task means no tick, so the clock can only move on to a sleeper.
      simp only [ready, quiet] at steps
      cases sleeping : run.sleeping with
      | nil => simp [sleeping] at steps
      | cons sleeper rest =>
          simp only [sleeping, Option.ite_none_right_eq_some] at steps
          obtain ⟨_, woken⟩ := steps
          cases woken
          exact idle

theorem stepsWhile_idle (going : Sessions → Bool) (limit : Instant) (fuel : Nat)
    (idle : run.refresh = none) : (stepsWhile going limit fuel run).refresh = none := by
  induction fuel generalizing run with
  | zero => exact idle
  | succ fuel ih =>
      unfold stepsWhile
      split
      · exact idle
      · cases steps : run.step limit with
        | none => exact idle
        | some next => exact ih (step_idle idle steps)

theorem spawn_idle (inTurn : Bool) (talk : Cli.Dialogue Upshot) (idle : run.refresh = none) :
    (run.spawn inTurn talk).1.refresh = none := by
  unfold spawn
  dsimp only
  split
  · exact idle
  · split
    · exact idle
    · exact idle

theorem establishMany_idle (count : Nat) (idle : run.refresh = none) :
    (run.establishMany count).1.refresh = none := by
  unfold establishMany
  generalize started : List.foldl _ (run, []) (List.range count) = spawned
  have begun : spawned.1.refresh = none := by
    rw [← started]
    refine List.foldlRecOn (motive := fun state : Sessions × List Nat =>
      state.1.refresh = none) _ _ idle ?_
    intro before still _ _
    exact spawn_idle true before.1.opening still
  refine List.foldlRecOn (motive := fun run : Sessions => run.refresh = none) _ _ begun ?_
  intro before still id _
  exact stepsWhile_idle _ _ _ still

end Rehearsal.Sessions

theorem VaultSettings.connection_fields {vault : VaultSettings} {connection : Connection}
    (connects : vault.connection = .ok connection) :
    connection.sessionRefresh = vault.sessionRefresh ∧
      vault.strategy = .ok connection.strategy := by
  unfold VaultSettings.connection at connects
  cases chosen : vault.strategy with
  | error fault =>
      rw [chosen] at connects
      cases connects
  | ok strategy =>
      rw [chosen] at connects
      cases connects
      exact ⟨rfl, rfl⟩

/-- The session that a service opens when it connects is renewed, if at all, at the interval of the
connection. -/
theorem Rehearsal.Connected.connect_bootstrap {connection : Connection} {login : LoginMethod}
    {masterPassword : Secret} (chosen : connection.strategy = .cliBootstrap login masterPassword)
    (client : Client) :
    ∃ (opened : Sessions) (outcome : Answer Unit), opened.refresh = none ∧
      (connect connection client = (.cli opened, outcome) ∨
        connection.sessionRefresh.isZero = false ∧
          connect connection client =
            (.cli (opened.startRefresh connection.sessionRefresh), outcome)) := by
  have idle : ((Sessions.start client
      (some ⟨Text.dropTrailing '/' connection.baseUrl, login, masterPassword⟩) ⟨""⟩
      connection.cacheTtl).establishMany 1).1.refresh = none :=
    Sessions.establishMany_idle 1 rfl
  -- The runs in which sessions are opened must stay folded while the match is reduced.
  obtain ⟨establish, folded⟩ : ∃ establish, establish = Sessions.establishMany := ⟨_, rfl⟩
  rw [← folded] at idle
  unfold connect
  rw [chosen, ← folded]
  dsimp only
  split
  · rename_i opened session established
    rw [established] at idle
    refine ⟨{ opened with session }, .ok (), idle, ?_⟩
    cases renews : connection.sessionRefresh.isZero with
    | true => exact Or.inl rfl
    | false => exact Or.inr ⟨rfl, rfl⟩
  · rename_i opened error established
    rw [established] at idle
    exact ⟨opened, .error error, idle, Or.inl rfl⟩
  · rename_i opened results _ _ established
    rw [established] at idle
    exact ⟨opened, .ok (), idle, Or.inl rfl⟩

/-- Whatever task renews the session of a connected service has the period of that chore. -/
theorem renewal_starts {settings : Settings} {connection : Connection}
    (connects : settings.vault.connection = .ok connection) (client : Rehearsal.Client)
    {run : Rehearsal.Sessions} {outcome : Answer Unit} {task : Rehearsal.Refresh}
    (connected : Rehearsal.Connected.connect connection client = (.cli run, outcome))
    (starts : run.refresh = some task) :
    settings.period? .renewal = some task.interval := by
  obtain ⟨same, strategy⟩ := VaultSettings.connection_fields connects
  cases chosen : connection.strategy with
  | api credentials =>
      simp [Rehearsal.Connected.connect, chosen] at connected
  | cliSession session =>
      simp only [Rehearsal.Connected.connect, chosen] at connected
      cases connected
      cases starts
  | cliBootstrap login masterPassword =>
      obtain ⟨opened, ended, idle, untended | ⟨renews, tended⟩⟩ :=
        Rehearsal.Connected.connect_bootstrap chosen client
      · cases connected.symm.trans untended
        cases idle.symm.trans starts
      · cases connected.symm.trans tended
        cases starts
        rw [same] at renews
        simp [Settings.period?, renews, strategy, chosen, same, Strategy.opensSession,
          Except.toOption]

end SecretBroker
