import SecretBroker.Proofs.AccessKey
import SecretBroker.Rehearsal.Requests

/-!
What stands between a request and the resolver. A request for secrets passes the rate limiter,
the allowlist and the key, in this order; the first of them that it fails answers it, and then
neither the answer nor anything that stays behind depends on what the resolver holds or the vault
would say.
-/

namespace SecretBroker.Http

/-- Requests for what is protected: a secret to be read, or the cache to be cleared. -/
def Request.AsksForSecrets (request : Request) : Prop :=
  (request.method = "GET" ∨ request.method = "HEAD") ∧
      Route.secretPath.toList <+: request.target.path.toList ∨
    request.method = "POST" ∧ request.target.path = "/refresh"

theorem refresh_route (withMetrics : Bool) :
    Route.ofPath? withMetrics "/refresh" = some .refresh := by
  simp [Route.ofPath?]

/-- Every path of a secret leads to a protected route that is read. -/
theorem secret_route (withMetrics : Bool) (path : String)
    (inside : Route.secretPath.toList <+: path.toList) :
    ∃ route, Route.ofPath? withMetrics path = some route ∧ route.isProtected = true ∧
      route.methods = ["GET", "HEAD"] := by
  have differs : ∀ other : String, ¬ Route.secretPath.toList <+: other.toList → path ≠ other := by
    rintro other outside rfl
    exact outside inside
  have noHealth := differs "/health" (by decide)
  have noMetrics : (path = "/metrics" && withMetrics) = false := by
    simp [differs "/metrics" (by decide)]
  have noRefresh := differs "/refresh" (by decide)
  rw [Route.ofPath?, if_neg noHealth, noMetrics, if_neg Bool.false_ne_true, if_neg noRefresh]
  by_cases bare : path = Route.secretPath
  · exact ⟨_, if_pos bare, rfl, rfl⟩
  · rw [if_neg bare, if_pos (List.isPrefixOf_iff_prefix.mpr inside)]
    exact ⟨_, rfl, rfl, rfl⟩

/-- There are no other protected routes. -/
theorem protected_route {withMetrics : Bool} {path : String} {route : Route}
    (found : Route.ofPath? withMetrics path = some route) (isProtected : route.isProtected = true) :
    Route.secretPath.toList <+: path.toList ∧ route.methods = ["GET", "HEAD"] ∨
      path = "/refresh" ∧ route.methods = ["POST"] := by
  simp only [Route.ofPath?] at found
  split at found
  · cases found
    cases isProtected
  split at found
  · cases found
    cases isProtected
  split at found
  · rename_i isRefresh
    cases found
    exact Or.inr ⟨isRefresh, rfl⟩
  split at found
  · rename_i bare
    cases found
    exact Or.inl ⟨bare ▸ List.prefix_rfl, rfl⟩
  split at found
  · rename_i inside
    cases found
    exact Or.inl ⟨List.isPrefixOf_iff_prefix.mp inside, rfl⟩
  · cases found

theorem asks_for_secrets (policy : Policy) (request : Request) :
    request.AsksForSecrets ↔ ∃ route, policy.route? request = some route ∧
      route.isProtected = true ∧ route.serves request.method = true := by
  constructor
  · rintro (⟨method, inside⟩ | ⟨method, path⟩)
    · obtain ⟨route, found, isProtected, methods⟩ := secret_route policy.withMetrics _ inside
      refine ⟨route, found, isProtected, ?_⟩
      simpa [Route.serves, methods] using method
    · refine ⟨.refresh, ?_, rfl, ?_⟩
      · rw [Policy.route?, path]
        exact refresh_route policy.withMetrics
      · simpa [Route.serves, Route.methods] using method
  · rintro ⟨route, found, isProtected, serves⟩
    rcases protected_route found isProtected with ⟨inside, methods⟩ | ⟨path, methods⟩
    · refine Or.inl ⟨?_, inside⟩
      simpa [Route.serves, methods] using serves
    · refine Or.inr ⟨?_, path⟩
      simpa [Route.serves, methods] using serves

namespace Service

/-- The service when its resolver is in another state. -/
def holding (service : Service) (resolver : Resolver) : Service := { service with resolver }

/-- The service when its cache holds something else. -/
def shelved (service : Service) (shelf : TendedCache) : Service :=
  service.holding ⟨shelf, service.resolver.tally⟩

/-- What the rate limiter says to a request, and what it is afterwards. -/
def limitCheck (service : Service) (request : Request) (now : Instant) :
    RateLimit.Limiter Float × RateLimit.Verdict :=
  service.limiter.check (request.clientKey service.policy.trustForwarded) now

def limited (service : Service) (request : Request) (now : Instant) : Service :=
  { service with limiter := (service.limitCheck request now).1 }

/-! The three gates. -/

def Grants (service : Service) (request : Request) (now : Instant) : Prop :=
  (service.limitCheck request now).2 = .granted

def Allows (service : Service) (request : Request) : Prop :=
  service.allowlist.isRestricted = false ∨
    ∃ address, request.client service.policy.trustForwarded = some address ∧
      service.allowlist.admits address = true

def Knows (service : Service) (request : Request) : Prop :=
  ∃ value, request.header? "authorization" = some value ∧ value.Shows service.policy.apiKey

/-- A request is turned away at a gate, whatever the resolver holds and whatever the vault would
say: the answer is one and the same, two counters grow, and nothing else changes behind the rate
limiter. -/
def TurnsAway (service : Service) (request : Request) (now : Instant) (gate : Gate)
    (status : Nat) : Prop :=
  ∃ route response, service.policy.route? request = some route ∧ response.status = status ∧
    ∀ shelf tally,
      let after := (service.limited request now).holding
        ⟨shelf, .request request.method route.pattern status :: .rejection gate :: tally⟩
      (service.holding ⟨shelf, tally⟩).accept request now = (after, .answered response) ∧
        ∀ vault, Rehearsal.Requests.send ⟨now, service.holding ⟨shelf, tally⟩, vault⟩ request =
          (⟨now, after, vault⟩, response)

/-- A request is answered without the resolver: what the cache holds makes no difference, is
left as it is and not counted as read, and the vault is not asked. -/
def KeepsOff (service : Service) (request : Request) (now : Instant) : Prop :=
  ∃ limiter counters response, .cacheHit ∉ counters ∧ .cacheMiss ∉ counters ∧ ∀ shelf,
    let before := service.shelved shelf
    let after := { service with limiter }.holding ⟨shelf, counters ++ service.resolver.tally⟩
    before.accept request now = (after, .answered response) ∧
      ∀ vault, Rehearsal.Requests.send ⟨now, before, vault⟩ request =
        (⟨now, after, vault⟩, response)

variable {service : Service} {request : Request} {now : Instant}

theorem send_answered {after : Service} {response : Response}
    (answered : service.accept request now = (after, .answered response))
    (vault : Rehearsal.Vault) :
    Rehearsal.Requests.send ⟨now, service, vault⟩ request = (⟨now, after, vault⟩, response) := by
  simp [Rehearsal.Requests.send, answered]

/-- Requests of the method OPTIONS aside, the rate limiter comes first. -/
theorem accept_refused {seconds : Nat} (ordinary : request.isPreflight = false)
    (refused : (service.limitCheck request now).2 = .refused seconds) :
    service.accept request now =
      (service.limited request now).refuse request .rateLimit (.tooManyRequests seconds) := by
  rw [limitCheck] at refused
  simp [accept, ordinary, refused, limited, limitCheck]

theorem accept_granted (ordinary : request.isPreflight = false)
    (granted : service.Grants request now) :
    service.accept request now =
      match service.policy.route? request with
      | none => (service.limited request now).answer request (emptyBody 404)
      | some route =>
        match if route.isProtected then
            accessFault? service.allowlist service.policy.apiKey service.policy.trustForwarded
              request
          else none with
        | some (gate, refusal) => (service.limited request now).refuse request gate refusal
        | none => (service.limited request now).handle request route now := by
  rw [Grants, limitCheck] at granted
  simp only [accept, ordinary, granted, limited, limitCheck]
  rfl

theorem accept_unrouted (ordinary : request.isPreflight = false)
    (granted : service.Grants request now) (unknown : service.policy.route? request = none) :
    service.accept request now = (service.limited request now).answer request (emptyBody 404) := by
  rw [accept_granted ordinary granted, unknown]

theorem accept_denied {route : Route} {gate : Gate} {refusal : Refusal}
    (ordinary : request.isPreflight = false) (granted : service.Grants request now)
    (found : service.policy.route? request = some route) (isProtected : route.isProtected = true)
    (fault : accessFault? service.allowlist service.policy.apiKey service.policy.trustForwarded
      request = some (gate, refusal)) :
    service.accept request now = (service.limited request now).refuse request gate refusal := by
  rw [accept_granted ordinary granted, found]
  simp only [if_pos isProtected, fault]

theorem accept_handled {route : Route}
    (ordinary : request.isPreflight = false) (granted : service.Grants request now)
    (found : service.policy.route? request = some route)
    (passes : route.isProtected = true → accessFault? service.allowlist service.policy.apiKey
      service.policy.trustForwarded request = none) :
    service.accept request now = (service.limited request now).handle request route now := by
  rw [accept_granted ordinary granted, found]
  by_cases isProtected : route.isProtected = true
  · simp only [if_pos isProtected, passes isProtected]
  · simp only [if_neg isProtected]

/-! The status of a refusal survives everything that a response gets on its way out. -/

theorem encode_status (response : Response) (request : Request) :
    (response.encode request).status = response.status := by
  simp only [Response.encode]
  split
  · rfl
  · split <;> rfl

theorem fit_status (response : Response) (route : Option Route) (method : String) :
    (response.fit route method).status = response.status := by
  cases route with
  | none => rfl
  | some route => simp [Response.fit, Response.addHeader, apply_ite Response.status]

theorem dress_status (response : Response) (policy : Policy) (request : Request) :
    (response.dress policy request).status = response.status :=
  fit_status _ _ _

theorem refusal_status (refusal : Refusal) : refusal.response.status = refusal.status := by
  cases refusal <;> rfl

/-- A protected request that is refused is turned away at the gate that refuses it. -/
theorem refuse_turns_away {route : Route} {gate : Gate} (refusal : Refusal)
    (found : service.policy.route? request = some route)
    (refused : ∀ resolver, (service.holding resolver).accept request now =
      ((service.holding resolver).limited request now).refuse request gate refusal) :
    service.TurnsAway request now gate refusal.status := by
  refine ⟨route, (refusal.response.encode request).dress service.policy request, found, ?_, ?_⟩
  · rw [dress_status, encode_status, refusal_status]
  · intro shelf tally after
    have answered : (service.holding ⟨shelf, tally⟩).accept request now =
        (after, .answered ((refusal.response.encode request).dress service.policy request)) := by
      rw [refused]
      simp [after, refuse, reply, count, Resolver.count, limited, holding, limitCheck, found,
        refusal_status]
    exact ⟨answered, fun vault => send_answered answered vault⟩

theorem ordinary_of_asking (asks : request.AsksForSecrets) : request.isPreflight = false := by
  rcases asks with ⟨method | method, _⟩ | ⟨method, _⟩ <;> simp [Request.isPreflight, method]

theorem allows_client : service.Allows request ↔
    service.allowlist.admitsClient (request.client service.policy.trustForwarded) = true := by
  rw [Allows, Allowlist.admitsClient]
  cases request.client service.policy.trustForwarded <;> simp

theorem knows_key : service.Knows request ↔
    keyFault? service.policy.apiKey (request.header? "authorization") = none :=
  (key_shown _ _).symm

theorem access_fault_allowlist (outside : ¬ service.Allows request) :
    accessFault? service.allowlist service.policy.apiKey service.policy.trustForwarded request =
      some (.allowlist, .forbidden "access denied: IP not whitelisted") := by
  rw [allows_client] at outside
  simp [accessFault?, outside]

theorem access_fault_key (inside : service.Allows request) (unknown : ¬ service.Knows request) :
    ∃ fault : KeyFault,
      accessFault? service.allowlist service.policy.apiKey service.policy.trustForwarded request =
        some (.apiKey, .unauthorized fault.reason) := by
  rw [allows_client] at inside
  rw [knows_key] at unknown
  obtain ⟨fault, found⟩ := Option.ne_none_iff_exists'.mp unknown
  exact ⟨fault, by simp [accessFault?, inside, found]⟩

theorem access_fault_none :
    accessFault? service.allowlist service.policy.apiKey service.policy.trustForwarded request =
      none ↔ service.Allows request ∧ service.Knows request := by
  rw [allows_client, knows_key]
  by_cases inside : service.allowlist.admitsClient
    (request.client service.policy.trustForwarded) = true <;> simp [accessFault?, inside]

/-- It is enough to know what becomes of a request when it arrives. -/
theorem keeps_off_of (limiter : RateLimit.Limiter Float) (counters : List Counter)
    (response : Response) (noHit : .cacheHit ∉ counters) (noMiss : .cacheMiss ∉ counters)
    (answers : ∀ shelf, (service.shelved shelf).accept request now =
      ({ service with limiter }.holding ⟨shelf, counters ++ service.resolver.tally⟩,
        .answered response)) : service.KeepsOff request now :=
  ⟨limiter, counters, response, noHit, noMiss, fun shelf =>
    ⟨answers shelf, send_answered (answers shelf)⟩⟩

theorem answer_keeps_off (response : Response)
    (answers : ∀ shelf, (service.shelved shelf).accept request now =
      ((service.shelved shelf).limited request now).answer request response) :
    service.KeepsOff request now := by
  apply keeps_off_of (service.limitCheck request now).1
    [.request request.method ((service.policy.route? request).elim "unmatched" Route.pattern)
      response.status] ((response.encode request).dress service.policy request)
  · simp
  · simp
  · exact answers

theorem refuse_keeps_off {gate : Gate} {refusal : Refusal}
    (refuses : ∀ shelf, (service.shelved shelf).accept request now =
      ((service.shelved shelf).limited request now).refuse request gate refusal) :
    service.KeepsOff request now := by
  apply keeps_off_of (service.limitCheck request now).1
    [.request request.method ((service.policy.route? request).elim "unmatched" Route.pattern)
      refusal.response.status, .rejection gate]
    ((refusal.response.encode request).dress service.policy request)
  · simp
  · simp
  · exact refuses

theorem preflight_keeps_off (preflight : request.isPreflight = true) :
    service.KeepsOff request now := by
  apply keeps_off_of service.limiter [] (preflightAnswer.dress service.policy request)
  · simp
  · simp
  · intro shelf
    rw [accept, if_pos preflight]
    rfl

/-- Methods that a route does not serve, and routes that are not protected, have answers that
take nothing from the cache. -/
theorem handle_keeps_off {route : Route}
    (aside : route.serves request.method = false ∨ route.isProtected = false)
    (handled : ∀ shelf, (service.shelved shelf).accept request now =
      ((service.shelved shelf).limited request now).handle request route now) :
    service.KeepsOff request now := by
  by_cases serves : route.serves request.method = true
  · have isPublic : route.isProtected = false := by simpa [serves] using aside
    cases route with
    | health =>
        refine answer_keeps_off health fun shelf => (handled shelf).trans ?_
        simp [handle, serves]
    | metrics =>
        refine answer_keeps_off (monitoringPage service.resolver.tally) fun shelf =>
          (handled shelf).trans ?_
        simp [handle, serves, limited, shelved, holding]
    | unnamedSecret | secret escaped | refresh => cases isPublic
  · refine answer_keeps_off (emptyBody 405) fun shelf => (handled shelf).trans ?_
    simp [handle, serves]

/-- The gates, one after the other: at each of them a request is answered or goes on. -/
theorem keeps_off_or_cleared (service : Service) (request : Request) (now : Instant) :
    service.KeepsOff request now ∨ request.AsksForSecrets ∧ service.Grants request now ∧
      service.Allows request ∧ service.Knows request := by
  by_cases preflight : request.isPreflight = true
  · exact Or.inl (preflight_keeps_off preflight)
  have ordinary : request.isPreflight = false := Bool.eq_false_iff.mpr preflight
  cases granted : (service.limitCheck request now).2 with
  | refused seconds => exact Or.inl (refuse_keeps_off fun _ => accept_refused ordinary granted)
  | granted =>
      cases found : service.policy.route? request with
      | none => exact Or.inl (answer_keeps_off _ fun _ => accept_unrouted ordinary granted found)
      | some route =>
          by_cases isProtected : route.isProtected = true
          · cases fault : accessFault? service.allowlist service.policy.apiKey
              service.policy.trustForwarded request with
            | some refused =>
                exact Or.inl (refuse_keeps_off fun _ =>
                  accept_denied ordinary granted found isProtected fault)
            | none =>
                by_cases serves : route.serves request.method = true
                · -- All gates are behind the request, and this is the only way to the resolver.
                  have asks := (asks_for_secrets service.policy request).mpr
                    ⟨route, found, isProtected, serves⟩
                  exact Or.inr ⟨asks, granted, access_fault_none.mp fault⟩
                · exact Or.inl (handle_keeps_off (Or.inl (Bool.eq_false_iff.mpr serves)) fun _ =>
                    accept_handled ordinary granted found fun _ => fault)
          · exact Or.inl (handle_keeps_off (Or.inr (Bool.eq_false_iff.mpr isProtected)) fun _ =>
              accept_handled ordinary granted found fun hidden => absurd hidden isProtected)

/-- A refresh that passes all gates does reach the resolver. -/
theorem refresh_reaches (method : request.method = "POST") (path : request.target.path = "/refresh")
    (granted : service.Grants request now) (allowed : service.Allows request)
    (known : service.Knows request) : ¬ service.KeepsOff request now := by
  rintro ⟨limiter, counters, response, _, _, same⟩
  have found : service.policy.route? request = some .refresh := by
    rw [Policy.route?, path]
    exact refresh_route _
  have handled := accept_handled (ordinary_of_asking (Or.inr ⟨method, path⟩)) granted found
    fun _ => access_fault_none.mpr ⟨allowed, known⟩
  have answered := (same service.resolver.shelf).1
  have serves : Route.refresh.serves "POST" = true := rfl
  rw [show service.shelved service.resolver.shelf = service from rfl,
    handled, handle, method, serves] at answered
  cases (Prod.mk.inj answered).2

/-- The resolver is out of reach of a request unless it asks for secrets, the rate limiter grants
it, the allowlist allows its client and it shows the key. One that asks for secrets and fails
there is turned away at the first gate that it fails. -/
theorem resolver_behind_gates (service : Service) (request : Request) (now : Instant) :
    (¬ service.KeepsOff request now → request.AsksForSecrets ∧ service.Grants request now ∧
      service.Allows request ∧ service.Knows request) ∧
    (request.AsksForSecrets → ¬ service.Grants request now →
      service.TurnsAway request now .rateLimit 429) ∧
    (request.AsksForSecrets → service.Grants request now → ¬ service.Allows request →
      service.TurnsAway request now .allowlist 403) ∧
    (request.AsksForSecrets → service.Grants request now → service.Allows request →
      ¬ service.Knows request → service.TurnsAway request now .apiKey 401) := by
  refine ⟨?_, ?_, ?_, ?_⟩
  · intro touched
    exact (keeps_off_or_cleared service request now).resolve_left touched
  · intro asks refused
    obtain ⟨route, found, _, _⟩ := (asks_for_secrets service.policy request).mp asks
    cases verdict : (service.limitCheck request now).2 with
    | granted => exact absurd verdict refused
    | refused seconds =>
        exact refuse_turns_away (.tooManyRequests seconds) found fun _ =>
          accept_refused (ordinary_of_asking asks) verdict
  · intro asks granted outside
    obtain ⟨route, found, isProtected, _⟩ := (asks_for_secrets service.policy request).mp asks
    have fault := access_fault_allowlist outside
    exact refuse_turns_away _ found fun _ =>
      accept_denied (ordinary_of_asking asks) granted found isProtected fault
  · intro asks granted inside unknown
    obtain ⟨route, found, isProtected, _⟩ := (asks_for_secrets service.policy request).mp asks
    obtain ⟨fault, denied⟩ := access_fault_key inside unknown
    exact refuse_turns_away _ found fun _ =>
      accept_denied (ordinary_of_asking asks) granted found isProtected denied

end Service
end SecretBroker.Http
