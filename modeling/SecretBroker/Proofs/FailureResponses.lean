import SecretBroker.Http.Service
import SecretBroker.Proofs.ClientFailures

/-!
What callers learn of lookups that fail. The response is settled by the service's policy, by the
request and by the error, and the error by where and how the lookup failed. Where details are not
shown, all failures on the vault's side look alike, and so do a missing entry and one without a
value, whatever the name.
-/

namespace SecretBroker

/-- A failure on the vault's side. -/
def VaultError.IsUpstream (error : VaultError) : Prop :=
  error.kind = .authFailure ∨ error.kind = .transport ∨ error.kind = .vaultStatus ∨
    error.kind = .invalidResponse

/-- The vault has no value of the name. -/
def VaultError.IsAbsence (error : VaultError) : Prop :=
  error.kind = .notFound ∨ error.kind = .noValue

namespace Http

variable {policy : Policy} {request asking : Request}

theorem ofVaultError_upstream {error : VaultError} (upstream : error.IsUpstream) :
    Refusal.ofVaultError error false = .badGateway "upstream vault unavailable" := by
  rcases upstream with kind | kind | kind | kind <;> simp [Refusal.ofVaultError, kind]

theorem ofVaultError_absence {error : VaultError} (absence : error.IsAbsence) (showDetail : Bool) :
    Refusal.ofVaultError error showDetail = .notFound "secret not found" := by
  rcases absence with kind | kind <;> simp [Refusal.ofVaultError, kind]

/-- Two requests for secrets that differ in nothing but the name and the peer. -/
structure Policy.AsksAlike (policy : Policy) (request asking : Request) : Prop where
  method : request.method = asking.method
  headers : request.headers = asking.headers
  one : ∃ escaped, policy.route? request = some (.secret escaped)
  other : ∃ escaped, policy.route? asking = some (.secret escaped)

theorem encode_alike (response : Response) (headers : request.headers = asking.headers) :
    response.encode request = response.encode asking := by
  have preferred : Coding.preferred request = Coding.preferred asking := by
    simp [Coding.preferred, Coding.accepted, Request.headersNamed, headers]
  simp [Response.encode, preferred]

theorem dress_alike (response : Response) (alike : policy.AsksAlike request asking) :
    response.dress policy request = response.dress policy asking := by
  obtain ⟨method, headers, ⟨escaped, one⟩, ⟨unescaped, other⟩⟩ := alike
  have origin : response.forOrigin policy.origins request =
      response.forOrigin policy.origins asking := by
    simp [Response.forOrigin, Origins.admission, Request.header?, headers]
  -- All names are served with the same methods.
  unfold Response.dress
  rw [origin, one, other, method]
  rfl

namespace Service

/-- The response to a lookup that failed; neither the cache nor the counters play a part in it. -/
theorem finishLookup_failed (service : Service) (request : Request) (lookup : Lookup)
    (error : VaultError) (now : Instant) :
    (service.finishLookup request lookup (.error error) now).2 =
      ((Refusal.ofVaultError error service.policy.showDetail).response.encode request).dress
        service.policy request := rfl

theorem failures_look_alike {one other : Service} (samePolicy : one.policy = other.policy)
    (alike : one.policy.AsksAlike request asking) {error failure : VaultError}
    (same : Refusal.ofVaultError error one.policy.showDetail =
      Refusal.ofVaultError failure one.policy.showDetail)
    (lookup search : Lookup) (now later : Instant) :
    (one.finishLookup request lookup (.error error) now).2 =
      (other.finishLookup asking search (.error failure) later).2 := by
  rw [finishLookup_failed, finishLookup_failed, ← samePolicy, same, encode_alike _ alike.headers]
  exact dress_alike _ alike

/-- Two lookups of a name that fail at the same place in the same manner, through the web service or
with the command line client, have the same error, whatever the credentials, tokens and sessions are
and whatever else the services and the client sent; and the response to a failed lookup is the same
for all services with one policy, whatever else they hold. Where details are not shown, there is one
response for all failures on the vault's side, whatever the names, and one for all names that the
vault has no value of. -/
theorem failures_reveal_nothing :
    (∀ (name : String) (one other : Api.Visit) (error failure : VaultError),
      one.answer? name = some (.error error) → other.answer? name = some (.error failure) →
        one.failure? name = other.failure? name → error = failure) ∧
    (∀ (name : String) (session key : Secret) (one other : Nat → Cli.Command → Cli.Launch)
      (error failure : VaultError),
      Cli.answer name session one = .error error → Cli.answer name key other = .error failure →
        Cli.failure? name session one = Cli.failure? name key other → error = failure) ∧
    (∀ (one other : Service) (request : Request) (lookup search : Lookup) (error : VaultError)
      (now later : Instant), one.policy = other.policy →
        (one.finishLookup request lookup (.error error) now).2 =
          (other.finishLookup request search (.error error) later).2) ∧
    ∀ (one other : Service) (request asking : Request) (lookup search : Lookup)
      (error failure : VaultError) (now later : Instant), one.policy = other.policy →
        one.policy.AsksAlike request asking → one.policy.showDetail = false →
          (error.IsUpstream ∧ failure.IsUpstream ∨ error.IsAbsence ∧ failure.IsAbsence) →
            (one.finishLookup request lookup (.error error) now).2 =
              (other.finishLookup asking search (.error failure) later).2 := by
  refine ⟨?_, ?_, ?_, ?_⟩
  · intro name one other error failure failed again same
    have first := Api.Visit.answer_reports failed
    rw [same] at first
    exact first.same (Api.Visit.answer_reports again)
  · intro name session key one other error failure failed again same
    have first := Cli.answer_reports name session one
    have second := Cli.answer_reports name key other
    rw [failed, same] at first
    rw [again] at second
    exact first.same second
  · intro one other request lookup search error now later samePolicy
    rw [finishLookup_failed, finishLookup_failed, samePolicy]
  · intro one other request asking lookup search error failure now later samePolicy alike hidden
      kinds
    apply failures_look_alike samePolicy alike
    rw [hidden]
    rcases kinds with ⟨upstream, also⟩ | ⟨absence, also⟩
    · rw [ofVaultError_upstream upstream, ofVaultError_upstream also]
    · rw [ofVaultError_absence absence, ofVaultError_absence also]

end Service
end Http
end SecretBroker
