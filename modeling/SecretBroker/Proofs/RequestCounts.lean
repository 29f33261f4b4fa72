import Mathlib.Data.List.Induction
import SecretBroker.Proofs.AccessGate
import SecretBroker.Proofs.RequestCalls

/-!
Which answers are counted. The counter stands behind the layers that answer preflights, watch the
time and catch breakdowns, so what these answer passes it by. All other answers come from behind the
counter and are counted there, each once and under the status that its caller gets.
-/

namespace SecretBroker

def Counter.isRequest : Counter → Bool
  | .request _ _ _ => true
  | _ => false

theorem Counter.isRequest_iff (counter : Counter) :
    counter.isRequest = true ↔ counter.name = "http_requests_total" := by
  cases counter <;> simp [isRequest, name]

/-- What a tally holds of requests. -/
def Tally.requests (tally : Tally) : List Counter := tally.filter Counter.isRequest

theorem Tally.total_requests (tally : Tally) :
    tally.total "http_requests_total" = tally.requests.length := by
  rw [total, requests, ← List.countP_eq_length_filter]
  apply List.countP_congr
  intro counter _
  rw [decide_eq_true_iff]
  exact counter.isRequest_iff.symm

namespace Resolver

theorem begin_requests (resolver : Resolver) (name : String) (now : Instant) :
    (resolver.begin name now).1.tally.requests = resolver.tally.requests := by
  unfold begin
  split
  · rfl
  · cases resolver.cache.read name now <;> rfl

theorem finish_requests (resolver : Resolver) (lookup : Lookup) (answer : Answer Secret)
    (now : Instant) :
    (resolver.finish lookup answer now).1.tally.requests = resolver.tally.requests := by
  cases answer <;> rfl

end Resolver

namespace Http

/-- The counter of a request that is answered with a status. -/
def Policy.counterOf (policy : Policy) (request : Request) (status : Nat) : Counter :=
  .request request.method ((policy.route? request).elim "unmatched" Route.pattern) status

/-- A response that neither the time limit nor a breakdown gives. -/
def Response.IsOwn (response : Response) : Prop := response.status ≠ 408 ∧ response.status ≠ 500

namespace Service

structure Quiet (before after : Service) : Prop where
  policy : after.policy = before.policy
  requests : after.resolver.tally.requests = before.resolver.tally.requests

structure Replies (before after : Service) (request : Request) (response : Response) : Prop where
  policy : after.policy = before.policy
  requests : after.resolver.tally.requests =
    before.policy.counterOf request response.status :: before.resolver.tally.requests
  own : response.IsOwn

/-- A request is answered and counted, or it waits and is not counted yet. -/
def Settles (before : Service) (request : Request) : Service × Progress → Prop
  | (after, .answered response) => before.Replies after request response
  | (after, .fetching _) | (after, .syncing) => before.Quiet after

variable {before service : Service} {request : Request}

theorem quiet_refl (service : Service) : service.Quiet service := ⟨rfl, rfl⟩

theorem reply_replies (quiet : before.Quiet service) {response : Response}
    (own : response.IsOwn) :
    before.Replies (service.reply request response).1 request
      (service.reply request response).2 := by
  have status : (service.reply request response).2.status = response.status := by
    rw [reply, dress_status, encode_status]
  constructor
  case policy => exact quiet.policy
  case requests =>
    rw [status, ← quiet.policy, ← quiet.requests]
    rfl
  case own =>
    unfold Response.IsOwn
    rw [status]
    exact own

theorem answer_settles (quiet : before.Quiet service) {response : Response}
    (own : response.IsOwn) : before.Settles request (service.answer request response) :=
  reply_replies quiet own

theorem refusal_own {refusal : Refusal} (outer : refusal.status ≠ 500) :
    refusal.response.IsOwn := by
  unfold Response.IsOwn
  rw [refusal_status]
  refine ⟨?_, outer⟩
  cases refusal <;> simp [Refusal.status]

theorem refuse_settles (quiet : before.Quiet service) (gate : Gate) {refusal : Refusal}
    (outer : refusal.status ≠ 500) :
    before.Settles request (service.refuse request gate refusal) :=
  have counted : before.Quiet (service.count (.rejection gate)) := ⟨quiet.policy, quiet.requests⟩
  reply_replies counted (refusal_own outer)

theorem lookupResponse_own (policy : Policy) (name : String) (answer : Answer Secret) :
    (lookupResponse policy name answer).IsOwn := by
  cases answer with
  | ok value => constructor <;> simp [lookupResponse, secretFound, Response.json]
  | error error =>
      apply refusal_own
      unfold Refusal.ofVaultError
      cases error.kind <;> simp [Refusal.status]

theorem lookup_settles (quiet : before.Quiet service) (escaped : String) (now : Instant) :
    before.Settles request (service.lookup request escaped now) := by
  unfold lookup
  split
  · exact answer_settles quiet ⟨by decide, by decide⟩
  · rename_i name _
    split
    · exact answer_settles quiet (refusal_own (by decide))
    · have begun : before.Quiet { service with
          resolver := (service.resolver.begin name now).1 } :=
        ⟨quiet.policy, (service.resolver.begin_requests name now).trans quiet.requests⟩
      dsimp only
      cases (service.resolver.begin name now).2 with
      | answered answer => exact answer_settles begun (lookupResponse_own _ name answer)
      | fetching lookup => exact begun

theorem handle_settles (quiet : before.Quiet service) (route : Route) (now : Instant) :
    before.Settles request (service.handle request route now) := by
  unfold handle
  split
  · exact answer_settles quiet ⟨by decide, by decide⟩
  · cases route with
    | health => exact answer_settles quiet ⟨by decide, by decide⟩
    | metrics =>
        apply answer_settles quiet
        constructor <;> simp [monitoringPage]
    | unnamedSecret => exact answer_settles quiet (refusal_own (by decide))
    | secret escaped => exact lookup_settles quiet escaped now
    | refresh => exact ⟨quiet.policy, quiet.requests⟩

theorem accessFault_outer {allowlist : Allowlist} {key : Secret} {trust : Bool} {gate : Gate}
    {refusal : Refusal} (fault : accessFault? allowlist key trust request = some (gate, refusal)) :
    refusal.status ≠ 500 := by
  unfold accessFault? at fault
  split at fault
  · cases fault
    decide
  · obtain ⟨reason, _, same⟩ := Option.map_eq_some_iff.mp fault
    cases same
    simp [Refusal.status]

theorem accept_settles (service : Service) (ordinary : request.isPreflight = false) (now : Instant) :
    service.Settles request (service.accept request now) := by
  have limited : service.Quiet (service.limited request now) := ⟨rfl, rfl⟩
  cases granted : (service.limitCheck request now).2 with
  | refused seconds =>
      rw [accept_refused ordinary granted]
      exact refuse_settles limited .rateLimit (by simp [Refusal.status])
  | granted =>
      rw [accept_granted ordinary granted]
      cases service.policy.route? request with
      | none => exact answer_settles limited ⟨by decide, by decide⟩
      | some route =>
          dsimp only
          split
          · rename_i gate refusal fault
            split at fault
            · exact refuse_settles limited gate (accessFault_outer fault)
            · cases fault
          · exact handle_settles limited route now

theorem accept_preflight (service : Service) (preflight : request.isPreflight = true)
    (now : Instant) :
    service.accept request now =
      (service, .answered (preflightAnswer.dress service.policy request)) := by
  rw [accept, if_pos preflight]

/-- The end of a lookup replies, or the request breaks down. -/
theorem finishLookup_settles (service : Service) (request : Request) (lookup : Lookup)
    (answer : Answer Secret) (now : Instant) :
    ((service.resolver.finish lookup answer now).2.isSome = true ∧
        service.Replies (service.finishLookup request lookup answer now).1 request
          (service.finishLookup request lookup answer now).2) ∨
      ((service.resolver.finish lookup answer now).2.isSome = false ∧
        service.Quiet (service.finishLookup request lookup answer now).1 ∧
        (service.finishLookup request lookup answer now).2.status = 500) := by
  have quiet : service.Quiet { service with
      resolver := (service.resolver.finish lookup answer now).1 } :=
    ⟨rfl, service.resolver.finish_requests lookup answer now⟩
  unfold finishLookup
  dsimp only
  cases (service.resolver.finish lookup answer now).2 with
  | none => exact Or.inr ⟨rfl, quiet, fit_status _ _ _⟩
  | some settled => exact Or.inl ⟨rfl, reply_replies quiet (lookupResponse_own _ _ settled)⟩

end Service

namespace Answered

/-- What the answer's way there says of it. -/
def Fits (answered : Answered) : Prop :=
  match answered.ending with
  | .preflight => answered.request.isPreflight = true ∧ answered.response.status = 200
  | .replied => answered.request.isPreflight = false ∧ answered.response.IsOwn
  | .overdue => answered.request.isPreflight = false ∧ answered.response.status = 408
  | .brokeDown => answered.request.isPreflight = false ∧ answered.response.status = 500

/-- An answer that is counted: neither one to a preflight nor one for want of time or of a
reply. -/
def isCounted (answered : Answered) : Bool :=
  !answered.request.isPreflight && answered.response.status != 408 &&
    answered.response.status != 500

def counter (policy : Policy) (answered : Answered) : Counter :=
  policy.counterOf answered.request answered.response.status

theorem Fits.counted {answered : Answered} (fits : answered.Fits) :
    answered.isCounted = true ↔ answered.ending = .replied := by
  unfold Fits at fits
  cases ending : answered.ending with
  | replied =>
      rw [ending] at fits
      obtain ⟨asked, own⟩ := fits
      simp [isCounted, asked, own.1, own.2]
  | preflight | overdue | brokeDown =>
      rw [ending] at fits
      simp [isCounted, fits.1, fits.2]

/-- The way of an answer shows in the request and in the status. -/
theorem Fits.ways {answered : Answered} (fits : answered.Fits) :
    (answered.ending = .preflight ↔ answered.request.isPreflight = true) ∧
      (answered.ending = .overdue ↔ answered.response.status = 408) ∧
      (answered.ending = .brokeDown ↔ answered.response.status = 500) := by
  unfold Fits at fits
  cases ending : answered.ending with
  | replied =>
      rw [ending] at fits
      obtain ⟨asked, own⟩ := fits
      simp [asked, own.1, own.2]
  | preflight | overdue | brokeDown =>
      rw [ending] at fits
      simp [fits.1, fits.2]

end Answered

namespace RequestCalls

variable {service : Service} {calls : RequestCalls}

/-- The callers that were answered and those that wait. -/
def parties (calls : RequestCalls) : List Nat :=
  calls.answers.map (·.caller) ++ calls.waiting.map (·.caller)

/-- Preflights never wait, and no caller is answered twice or answered and still waiting. -/
structure Tidy (calls : RequestCalls) : Prop where
  ordinary : ∀ waiting ∈ calls.waiting, waiting.request.isPreflight = false
  below : ∀ caller ∈ calls.parties, caller < calls.callers
  apart : calls.parties.Nodup

/-- All that a step can do. -/
inductive Moves (before after : RequestCalls) : Prop where
  | quiet (same : before.service.Quiet after.service) (answers : after.answers = before.answers)
  | replied (caller : Nat) (request : Request) (response : Response)
      (ordinary : request.isPreflight = false)
      (replies : before.service.Replies after.service request response)
      (answers : after.answers = ⟨caller, request, .replied, response⟩ :: before.answers)
  | passed (answered : Answered) (fits : answered.Fits) (uncounted : answered.ending ≠ .replied)
      (same : before.service.Quiet after.service)
      (answers : after.answers = answered :: before.answers)

theorem arrive_moves (calls : RequestCalls) (request : Request) :
    Moves calls (calls.arrive request) := by
  by_cases preflight : request.isPreflight = true
  · have accepted := calls.service.accept_preflight preflight calls.now
    let response := preflightAnswer.dress calls.service.policy request
    apply Moves.passed ⟨calls.callers, request, .preflight, response⟩
    · exact ⟨preflight, Service.dress_status _ _ _⟩
    · nofun
    · simp only [arrive, accepted]
      exact Service.quiet_refl _
    · simp only [arrive, accepted, if_pos preflight]
      rfl
  · have ordinary : request.isPreflight = false := Bool.eq_false_iff.mpr preflight
    have settles := calls.service.accept_settles ordinary calls.now
    unfold arrive
    dsimp only
    revert settles
    rcases calls.service.accept request calls.now with ⟨after, progress⟩
    intro settles
    cases progress with
    | answered response =>
        apply Moves.replied calls.callers request response ordinary
        · exact settles
        · simp only [if_neg preflight]
          rfl
    | fetching lookup => exact .quiet settles rfl
    | syncing => exact .quiet settles rfl

theorem settle_moves {waiting : Waiting} (ordinary : waiting.request.isPreflight = false)
    (lookup : Lookup) (answer : Answer Secret) :
    Moves calls (calls.settle waiting lookup answer) := by
  rcases calls.service.finishLookup_settles waiting.request lookup answer calls.now with
    ⟨settled, replies⟩ | ⟨lost, quiet, status⟩
  · apply Moves.replied waiting.caller waiting.request _ ordinary replies
    simp only [settle, settled]
    rfl
  · let response := (calls.service.finishLookup waiting.request lookup answer calls.now).2
    apply Moves.passed ⟨waiting.caller, waiting.request, .brokeDown, response⟩
    · exact ⟨ordinary, status⟩
    · nofun
    · exact quiet
    · simp only [settle, lost]
      rfl

theorem synced_moves {waiting : Waiting} (ordinary : waiting.request.isPreflight = false) :
    Moves calls (calls.synced waiting) :=
  .replied waiting.caller waiting.request _ ordinary
    (Service.reply_replies calls.service.quiet_refl ⟨by decide, by decide⟩) rfl

theorem panic_moves {waiting : Waiting} (ordinary : waiting.request.isPreflight = false) :
    Moves calls (calls.panic waiting) :=
  .passed ⟨waiting.caller, waiting.request, .brokeDown, _⟩ ⟨ordinary, Service.fit_status _ _ _⟩
    nofun calls.service.quiet_refl rfl

theorem expire_moves {waiting : Waiting} (ordinary : waiting.request.isPreflight = false) :
    Moves calls (calls.expire waiting) := by
  unfold expire
  split
  · exact .passed ⟨waiting.caller, waiting.request, .overdue, _⟩
      ⟨ordinary, Service.dress_status _ _ _⟩ nofun calls.service.quiet_refl rfl
  · exact .quiet calls.service.quiet_refl rfl

theorem onWaiting_moves (tidy : calls.Tidy) (caller : Nat) {act : Waiting → RequestCalls}
    (moves : ∀ waiting, waiting.request.isPreflight = false → Moves calls (act waiting)) :
    Moves calls (calls.onWaiting caller act) := by
  unfold onWaiting
  cases found : calls.waiting? caller with
  | none => exact .quiet calls.service.quiet_refl rfl
  | some waiting => exact moves waiting (tidy.ordinary waiting (List.mem_of_find?_eq_some found))

theorem step_moves (tidy : calls.Tidy) (act : Act) : Moves calls (calls.step act) := by
  cases act with
  | arrive request => exact arrive_moves calls request
  | answer caller answer =>
      apply onWaiting_moves tidy
      intro waiting asked
      split
      · exact settle_moves asked _ answer
      · exact .quiet calls.service.quiet_refl rfl
  | synced caller =>
      apply onWaiting_moves tidy
      intro waiting asked
      split
      · exact .quiet calls.service.quiet_refl rfl
      · exact synced_moves asked
  | panic caller => exact onWaiting_moves tidy caller fun _ => panic_moves
  | expire caller => exact onWaiting_moves tidy caller fun _ => expire_moves
  | leave caller => exact .quiet calls.service.quiet_refl rfl
  | publish ranges => exact .quiet ⟨rfl, rfl⟩ rfl
  | sweep moment => exact .quiet ⟨rfl, rfl⟩ rfl
  | elapse span => exact .quiet calls.service.quiet_refl rfl

theorem start_tidy (service : Service) (now : Instant) : (start service now).Tidy where
  ordinary _ member := by cases member
  below _ member := by cases member
  apart := List.nodup_nil

theorem withService_tidy (tidy : calls.Tidy) (service : Service) :
    (calls.withService service).Tidy :=
  ⟨tidy.ordinary, tidy.below, tidy.apart⟩

theorem release_tidy (tidy : calls.Tidy) (caller : Nat) : (calls.release caller).Tidy := by
  have fewer : (calls.release caller).parties.Sublist calls.parties :=
    (List.Sublist.refl _).append (List.filter_sublist.map _)
  constructor
  case ordinary =>
    intro waiting member
    exact tidy.ordinary waiting (List.mem_filter.mp member).1
  case below =>
    intro party member
    exact tidy.below party (fewer.subset member)
  case apart => exact tidy.apart.sublist fewer

theorem conclude_tidy (tidy : calls.Tidy) {waiting : Waiting} (member : waiting ∈ calls.waiting)
    (ending : Ending) (response : Response) : (calls.conclude waiting ending response).Tidy := by
  have released := release_tidy tidy waiting.caller
  have waits : waiting.caller ∈ calls.waiting.map (·.caller) := List.mem_map_of_mem member
  constructor
  case ordinary => exact released.ordinary
  case below =>
    exact List.forall_mem_cons.mpr
      ⟨tidy.below waiting.caller (List.mem_append_right _ waits), released.below⟩
  case apart =>
    refine List.nodup_cons.mpr ⟨?_, released.apart⟩
    intro party
    rcases List.mem_append.mp party with answered | stays
    · exact (List.nodup_append.mp tidy.apart).2.2 _ answered _ waits rfl
    · -- The release has taken the caller out.
      obtain ⟨other, kept, same⟩ := List.mem_map.mp stays
      exact of_decide_eq_true (List.mem_filter.mp kept).2 same

theorem arrive_tidy (tidy : calls.Tidy) (request : Request) : (calls.arrive request).Tidy := by
  have fresh : calls.callers ∉ calls.parties := by
    intro party
    exact Nat.lt_irrefl _ (tidy.below _ party)
  have grown : ∀ caller ∈ calls.callers :: calls.parties, caller < calls.callers + 1 := by
    refine List.forall_mem_cons.mpr ⟨Nat.lt_succ_self _, ?_⟩
    intro caller party
    exact Nat.lt_succ_of_lt (tidy.below caller party)
  have apart : (calls.callers :: calls.parties).Nodup := List.nodup_cons.mpr ⟨fresh, tidy.apart⟩
  by_cases preflight : request.isPreflight = true
  · simp only [arrive, calls.service.accept_preflight preflight]
    exact ⟨tidy.ordinary, grown, apart⟩
  · have asked : request.isPreflight = false := Bool.eq_false_iff.mpr preflight
    unfold arrive
    dsimp only
    rcases calls.service.accept request calls.now with ⟨after, progress⟩
    cases progress with
    | answered response => exact ⟨tidy.ordinary, grown, apart⟩
    | fetching lookup | syncing =>
        -- The new caller stands between the two parts.
        have order : (calls.answers.map (·.caller) ++
            calls.callers :: calls.waiting.map (·.caller)).Perm (calls.callers :: calls.parties) :=
          List.perm_middle
        constructor
        case ordinary => exact List.forall_mem_cons.mpr ⟨asked, tidy.ordinary⟩
        case below =>
          intro caller party
          exact grown caller (order.mem_iff.mp party)
        case apart => exact order.nodup_iff.mpr apart

theorem onWaiting_tidy (tidy : calls.Tidy) (caller : Nat) {act : Waiting → RequestCalls}
    (keeps : ∀ waiting ∈ calls.waiting, (act waiting).Tidy) :
    (calls.onWaiting caller act).Tidy := by
  unfold onWaiting
  cases found : calls.waiting? caller with
  | none => exact tidy
  | some waiting => exact keeps waiting (List.mem_of_find?_eq_some found)

theorem step_tidy (tidy : calls.Tidy) (act : Act) : (calls.step act).Tidy := by
  cases act with
  | arrive request => exact arrive_tidy tidy request
  | answer caller answer =>
      apply onWaiting_tidy tidy
      intro waiting member
      split
      · rename_i lookup _
        exact conclude_tidy (withService_tidy tidy
          (calls.service.finishLookup waiting.request lookup answer calls.now).1) member _ _
      · exact tidy
  | synced caller =>
      apply onWaiting_tidy tidy
      intro waiting member
      split
      · exact tidy
      · exact conclude_tidy (withService_tidy tidy (calls.service.finishSync waiting.request).1)
          member _ _
  | panic caller =>
      apply onWaiting_tidy tidy
      intro waiting member
      exact conclude_tidy tidy member _ _
  | expire caller =>
      apply onWaiting_tidy tidy
      intro waiting member
      unfold expire
      split
      · exact conclude_tidy tidy member _ _
      · exact tidy
  | leave caller => exact release_tidy tidy caller
  | publish ranges => exact withService_tidy tidy _
  | sweep moment => exact withService_tidy tidy _
  | elapse span => exact ⟨tidy.ordinary, tidy.below, tidy.apart⟩

/-- The answers of a state tell what its service has counted since it started. -/
structure Counted (service : Service) (calls : RequestCalls) : Prop where
  policy : calls.service.policy = service.policy
  fits : ∀ answered ∈ calls.answers, answered.Fits
  requests : calls.service.resolver.tally.requests =
    (calls.answers.filter Answered.isCounted).map (Answered.counter service.policy) ++
      service.resolver.tally.requests

theorem Moves.counted {before after : RequestCalls} (moves : Moves before after)
    (counted : Counted service before) : Counted service after := by
  cases moves with
  | quiet same answers =>
      constructor
      · exact same.policy.trans counted.policy
      · rw [answers]
        exact counted.fits
      · rw [same.requests, answers]
        exact counted.requests
  | replied caller request response ordinary replies answers =>
      have fits : Answered.Fits ⟨caller, request, .replied, response⟩ := ⟨ordinary, replies.own⟩
      constructor
      · exact replies.policy.trans counted.policy
      · rw [answers]
        exact List.forall_mem_cons.mpr ⟨fits, counted.fits⟩
      · rw [replies.requests, answers, counted.requests, counted.policy,
          List.filter_cons_of_pos (fits.counted.mpr rfl)]
        rfl
  | passed answered fits uncounted same answers =>
      constructor
      · exact same.policy.trans counted.policy
      · rw [answers]
        exact List.forall_mem_cons.mpr ⟨fits, counted.fits⟩
      · rw [same.requests, answers, counted.requests,
          List.filter_cons_of_neg fun seen => uncounted (fits.counted.mp seen)]

theorem start_counted (service : Service) (now : Instant) :
    Counted service (start service now) where
  policy := rfl
  fits _ member := by cases member
  requests := rfl

theorem run_snoc (service : Service) (now : Instant) (acts : List Act) (act : Act) :
    run service now (acts ++ [act]) = (run service now acts).step act := by
  simp [run]

theorem run_counted (service : Service) (now : Instant) (acts : List Act) :
    (run service now acts).Tidy ∧ Counted service (run service now acts) := by
  induction acts using List.reverseRecOn with
  | nil => exact ⟨start_tidy service now, start_counted service now⟩
  | append_singleton acts act ih =>
      obtain ⟨tidy, counted⟩ := ih
      rw [run_snoc]
      exact ⟨step_tidy tidy act, (step_moves tidy act).counted counted⟩

/-- After any run of a service no caller was answered twice, and the counters of requests have grown
by one for each answer but those to preflights, those that the time limit gave and those that a
breakdown gave, in their order and each under the method and the route of its request and the status
of its response. -/
theorem answers_counted (service : Service) (now : Instant) (acts : List Act) :
    let calls := run service now acts
    let tally := calls.service.resolver.tally
    (calls.answers.map (·.caller)).Nodup ∧
    (∀ answered ∈ calls.answers,
      (answered.ending = .preflight ↔ answered.request.isPreflight = true) ∧
      (answered.ending = .overdue ↔ answered.response.status = 408) ∧
      (answered.ending = .brokeDown ↔ answered.response.status = 500) ∧
      (answered.isCounted = true ↔ answered.ending = .replied)) ∧
    tally.requests = (calls.answers.filter Answered.isCounted).map
      (Answered.counter service.policy) ++ service.resolver.tally.requests ∧
    tally.total "http_requests_total" =
      service.resolver.tally.total "http_requests_total" +
        calls.answers.countP Answered.isCounted := by
  intro calls tally
  obtain ⟨tidy, counted⟩ := run_counted service now acts
  refine ⟨(List.nodup_append.mp tidy.apart).1, ?_, counted.requests, ?_⟩
  · intro answered member
    have fits := counted.fits answered member
    exact ⟨fits.ways.1, fits.ways.2.1, fits.ways.2.2, fits.counted⟩
  · rw [Tally.total_requests, Tally.total_requests, counted.requests, List.length_append,
      List.length_map, ← List.countP_eq_length_filter, Nat.add_comm]

theorem expire_due {caller : Nat} {waiting : Waiting}
    (waits : calls.waiting? caller = some waiting)
    (due : waiting.since + calls.service.policy.timeout.total ≤ calls.now) :
    calls.step (.expire caller) =
      calls.conclude waiting .overdue (calls.service.giveUp waiting.request) := by
  simp only [step, onWaiting, waits]
  exact if_pos due

/-! Where the layers before the counter answer. -/

def plainService : Service where
  policy := ⟨⟨"key"⟩, false, false, .any, ⟨10, 0⟩, false⟩
  limiter := .new (.perMinute 30)
  allowlist := .new [] false
  resolver := .start ⟨300, 0⟩ 0

/-- A request for the secret `A` with the key of the plain service. -/
def plainRequest (method : String) : Request :=
  ⟨method, ⟨"/secret/A", none⟩, [("authorization", Text.utf8 "Bearer key")], none⟩

theorem plain_accept (granted : plainService.Grants (plainRequest "GET") 0) :
    ∃ after, plainService.accept (plainRequest "GET") 0 = (after, .fetching ⟨"A", 0⟩) := by
  have found : plainService.policy.route? (plainRequest "GET") = some (.secret "A") := by
    decide +kernel
  have passes : accessFault? plainService.allowlist plainService.policy.apiKey
      plainService.policy.trustForwarded (plainRequest "GET") = none := by decide +kernel
  have unescaped : Route.unescape "A" = some "A" := by decide +kernel
  have valid : PathName.isValid "A" = true := by decide +kernel
  rw [Service.accept_handled rfl granted found fun _ => passes]
  simp only [Service.handle, Service.lookup, unescaped, valid]
  exact ⟨_, rfl⟩

/-- An answer to a preflight, one for want of time and one for want of a reply. None of them is
counted. -/
theorem outer_answers_uncounted :
    let preflight := run plainService 0 [.arrive (plainRequest "OPTIONS")]
    let overdue := run plainService 0
      [.arrive (plainRequest "GET"), .elapse plainService.policy.timeout.total, .expire 0]
    let broken := run plainService 0 [.arrive (plainRequest "GET"), .panic 0]
    let stands := fun calls : RequestCalls =>
      (calls.answers.map (·.response.status),
        calls.service.resolver.tally.total "http_requests_total")
    stands preflight = ([200], 0) ∧
      (plainService.Grants (plainRequest "GET") 0 →
        stands overdue = ([408], 0) ∧ stands broken = ([500], 0)) := by
  intro preflight overdue broken stands
  refine ⟨by decide +kernel, ?_⟩
  intro granted
  obtain ⟨after, waits⟩ := plain_accept granted
  have ordinary : (plainRequest "GET").isPreflight = false := rfl
  have settles := plainService.accept_settles ordinary 0
  rw [waits] at settles
  have uncounted : after.resolver.tally.total "http_requests_total" = 0 := by
    rw [Tally.total_requests, settles.requests]
    rfl
  have arrived : (start plainService 0).step (.arrive (plainRequest "GET")) =
      ⟨0, after, [⟨0, plainRequest "GET", 0, .lookup ⟨"A", 0⟩⟩], 1, []⟩ := by
    simp [step, arrive, start, waits, withWaiting]
  have late : overdue.answers.map (·.response.status) = [408] ∧ overdue.service = after := by
    simp only [overdue, run, List.foldl_cons, List.foldl_nil, arrived]
    rw [expire_due rfl]
    · exact ⟨congrArg (fun status => [status]) (Service.dress_status _ _ _), rfl⟩
    · exact Nat.le_of_eq (congrArg (fun policy : Policy => 0 + policy.timeout.total) settles.policy)
  have lost : broken.answers.map (·.response.status) = [500] ∧ broken.service = after := by
    simp only [broken, run, List.foldl_cons, List.foldl_nil, arrived]
    exact ⟨congrArg (fun status => [status]) (Service.fit_status _ _ _), rfl⟩
  simp only [stands, late.1, late.2, lost.1, lost.2, uncounted, and_self]

end RequestCalls
end Http
end SecretBroker
