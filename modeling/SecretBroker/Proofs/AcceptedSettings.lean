import SecretBroker.Settings.Check

/-!
What accepted settings have in common: nothing that the checks ask for is missing.
-/

namespace SecretBroker.Settings

structure Accepted (settings : Settings) : Prop where
  limits : settings.limitFaults = []
  longKey : minApiKeySize ≤ settings.security.apiKey.size
  webAddress : hasWebScheme settings.vault.baseUrl = true
  limited : settings.server.requestTimeout.isZero = false
  refreshed : settings.security.githubRanges = true →
    settings.security.githubRefresh.isZero = false
  connects : ∃ strategy, settings.vault.strategy = .ok strategy

theorem bind_ok {α β : Type} {first : Except Fault α} {rest : α → Except Fault β} {result : β} :
    (first >>= rest) = .ok result ↔ ∃ value, first = .ok value ∧ rest value = .ok result := by
  cases first with
  | error fault =>
      constructor
      · intro failed
        cases failed
      · rintro ⟨value, failed, _⟩
        cases failed
  | ok value =>
      constructor
      · intro went
        exact ⟨value, rfl, went⟩
      · rintro ⟨same, kept, went⟩
        cases kept
        exact went

theorem throw_ok {α β : Type} {fault : Fault} {rest : α → Except Fault β} {result : β} :
    ((throw fault : Except Fault α) >>= rest) = .ok result ↔ False :=
  iff_of_false (fun failed => by cases failed) id

theorem refuse_ok {α β : Type} {refused : Prop} [Decidable refused] {fault : Fault}
    {rest : α → Except Fault β} {otherwise : Except Fault β} {result : β} :
    (if refused then (throw fault : Except Fault α) >>= rest else otherwise) = .ok result ↔
      ¬ refused ∧ otherwise = .ok result := by
  by_cases holds : refused
  · rw [if_pos holds, throw_ok]
    simp [holds]
  · simp [holds]

theorem check_iff {settings : Settings} : settings.check = .ok () ↔ settings.Accepted := by
  unfold check
  cases limits : settings.limitFaults with
  | cons limit rest =>
      simp only [throw_ok, false_iff]
      intro accepted
      rw [accepted.limits] at limits
      cases limits
  | nil =>
      simp only [refuse_ok, bind_ok]
      constructor
      · rintro ⟨longKey, webAddress, limited, refreshed, strategy, connects, _⟩
        refine ⟨limits, by omega, by simpa using webAddress, by simpa using limited, ?_,
          strategy, connects⟩
        intro enabled
        simpa [enabled] using refreshed
      · rintro ⟨_, longKey, webAddress, limited, refreshed, strategy, connects⟩
        refine ⟨by omega, by simpa using webAddress, by simpa using limited, ?_, strategy, connects,
          rfl⟩
        simpa using refreshed

/-- Settings are read just if no setting has parts and they are typed and checked. -/
theorem read_ok {found : Variables} {settings : Settings} :
    read found = .ok settings ↔
      found.given.shapeFault? = none ∧ typed found.given = .ok settings ∧
        settings.check = .ok () := by
  unfold read
  cases shape : found.given.shapeFault? with
  | some fault => simp [shape, throw_ok]
  | none =>
      simp only [shape, bind_ok, true_and]
      constructor
      · rintro ⟨same, typed, _, checked, returned⟩
        obtain rfl : same = settings := Except.ok.inj returned
        exact ⟨typed, checked⟩
      · rintro ⟨typed, checked⟩
        exact ⟨settings, typed, (), checked, rfl⟩

theorem read_accepted {found : Variables} {settings : Settings}
    (accepted : read found = .ok settings) : settings.Accepted :=
  check_iff.mp (read_ok.mp accepted).2.2

theorem require_ok {key text : String} {found : Option String} :
    require key found = .ok text ↔ found = some text := by
  cases found with
  | none => exact iff_of_false nofun nofun
  | some given => simp [require]

theorem typed_key {given : Variables} {settings : Settings}
    (typed : Settings.typed given = .ok settings) :
    given.text? "api_key" = some settings.security.apiKey.reveal := by
  simp only [Settings.typed, bind_ok] at typed
  obtain ⟨readTimeout, _, writeTimeout, _, tcpPort, _, key, required, networks, _, ranges, _,
    refresh, _, trust, _, rate, _, baseUrl, _, mode, _, session, _, ttl, _, metrics, _,
    returned⟩ := typed
  obtain rfl := Except.ok.inj returned
  exact require_ok.mp required

end SecretBroker.Settings
