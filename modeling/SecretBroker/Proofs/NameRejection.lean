import SecretBroker.Proofs.AccessGate
import SecretBroker.Proofs.FailureResponses
import SecretBroker.Proofs.PathNames
import SecretBroker.Proofs.Resolving

/-!
Where a name can be turned away. A name that is valid in a path passes every check behind it: no
lookup of it fails for its input, through the web service or with the command line client, whatever
these do. So of all requests for secrets that pass the gates, just those for other names get the
answer that their name has no valid format.
-/

namespace SecretBroker

theorem Reports.failed {Failure : Type} {error : Failure → VaultError} {failure : Option Failure}
    {told : VaultError} (reports : Reports error failure (.error told)) :
    ∃ cause, failure = some cause ∧ told = error cause := by
  cases failure with
  | none =>
      obtain ⟨value, answered⟩ := reports
      cases answered
  | some cause => exact ⟨cause, rfl, Except.error.inj reports⟩

namespace Api

theorem Failure.input_refused {name : String} {failure : Failure}
    (input : (failure.error name).kind = .invalidInput) : ∃ fault, failure = .refused fault := by
  cases failure with
  | refused fault => exact ⟨fault, rfl⟩
  | exchange mishap | listing mishap => cases mishap <;> cases input
  | emptyToken | unmatched | valueless => cases input

theorem listingFailure_not_refused (name : String) (delivery : Delivery)
    (fault : LookupName.Fault) : listingFailure? name delivery ≠ some (.refused fault) := by
  unfold listingFailure?
  cases delivery.read Entry.listOfJson with
  | error mishap => simp
  | ok entries =>
      dsimp only
      cases entries.find? (·.nameOrEmpty = name) with
      | none => simp
      | some entry => cases valued : entry.listedValue <;> simp [valued]

theorem exchangeGrant_not_refused (delivery : Delivery) (fault : LookupName.Fault) :
    exchangeGrant delivery ≠ .error (.refused fault) := by
  unfold exchangeGrant
  cases delivery.read Grant.ofJson with
  | error mishap => simp
  | ok grant => cases empty : grant.token.isEmpty <;> simp [empty]

namespace Visit

variable {visit : Visit} {name : String}

theorem failure_not_refused (named : LookupName.fault? name = none) (fault : LookupName.Fault) :
    visit.failure? name ≠ some (.refused fault) := by
  unfold failure?
  simp only [named]
  cases visit.desk.fresh? visit.now with
  | some token => exact listingFailure_not_refused name _ fault
  | none =>
      cases granted : exchangeGrant visit.exchanged with
      | error failure =>
          intro refused
          obtain rfl := Option.some.inj refused
          exact exchangeGrant_not_refused _ _ granted
      | ok grant => exact listingFailure_not_refused name _ fault

/-- Whatever the web service does, a lookup of a good name does not fail for its input. -/
theorem input_accepted {error : VaultError} (named : LookupName.fault? name = none)
    (failed : visit.answer? name = some (.error error)) : error.kind ≠ .invalidInput := by
  intro input
  obtain ⟨failure, cause, rfl⟩ := (answer_reports failed).failed
  obtain ⟨fault, rfl⟩ := Failure.input_refused input
  exact failure_not_refused named fault cause

end Visit
end Api

namespace Cli

/-- The name is no good, or a command is not allowed. -/
inductive Failure.Refused : Failure → Prop
  | name (fault : LookupName.Fault) : Refused (.name fault)
  | argument (fault : Argument.Fault) : Refused (.argument fault)
  | exact (fault : CommandFault) : Refused (.exact (.refused fault))
  | search (fault : CommandFault) : Refused (.search (.refused fault))

theorem Failure.input_refused {name : String} {failure : Failure}
    (input : (failure.error name).kind = .invalidInput) : failure.Refused := by
  cases failure with
  | name fault => exact .name fault
  | argument fault => exact .argument fault
  | exact mishap =>
      cases mishap with
      | refused fault => exact .exact fault
      | unpassable | missing | denied | overdue => cases input
  | search mishap =>
      cases mishap with
      | refused fault => exact .search fault
      | unpassable | missing | denied | overdue => cases input
  | exactUnreadable | exactValueless | searchExit | searchUnreadable | unmatched
    | foundValueless => cases input

theorem Command.read_admitted {command : Command} (admitted : command.fault? = none)
    (launch : Launch) (fault : CommandFault) : command.read launch ≠ .error (.refused fault) := by
  unfold Command.read
  rw [admitted]
  cases command.isPassable with
  | false => simp
  | true => cases launch <;> simp

theorem exactFailure_not_refused (output : Output) {failure : Failure} (refused : failure.Refused) :
    exactFailure? output ≠ some failure := by
  unfold exactFailure?
  cases Entry.read output.stdout with
  | none => cases refused <;> simp
  | some entry => cases valued : entry.clientValue <;> cases refused <;> simp [valued]

theorem searchFailure_not_refused (output : Output) {failure : Failure}
    (refused : failure.Refused) : searchFailure? output ≠ some failure := by
  unfold searchFailure?
  cases output.success with
  | false => cases refused <;> simp
  | true =>
      match Entry.readList output.stdout with
      | none => cases refused <;> simp
      | some [] => cases refused <;> simp
      | some (entry :: rest) =>
          cases valued : entry.clientValue <;> cases refused <;> simp [valued]

variable {name : String} {session : Secret} {system : Nat → Command → Launch}

theorem failure_not_refused (named : LookupName.fault? name = none)
    (good : Argument.fault? name = none) {failure : Failure} (refused : failure.Refused) :
    failure? name session system ≠ some failure := by
  intro cause
  unfold failure? at cause
  simp only [named, good] at cause
  cases exact : (Command.getItem name session).read (system 0 (.getItem name session)) with
  | error mishap =>
      rw [exact] at cause
      obtain rfl := Option.some.inj cause
      cases refused
      exact Command.read_admitted (Command.getItem_admitted good session) _ _ exact
  | ok output =>
      simp only [exact] at cause
      cases success : output.success with
      | true =>
          rw [success] at cause
          exact exactFailure_not_refused output refused cause
      | false =>
          simp only [success, Bool.false_eq_true, if_false] at cause
          cases searched : (Command.searchItems name session).read
              (system 1 (.searchItems name session)) with
          | error mishap =>
              rw [searched] at cause
              obtain rfl := Option.some.inj cause
              cases refused
              exact Command.read_admitted (Command.searchItems_admitted good session) _ _ searched
          | ok found =>
              rw [searched] at cause
              exact searchFailure_not_refused found refused cause

/-- Whatever the client does, a lookup of a good name does not fail for its input. -/
theorem input_accepted {error : VaultError} (named : LookupName.fault? name = none)
    (good : Argument.fault? name = none) (failed : answer name session system = .error error) :
    error.kind ≠ .invalidInput := by
  intro input
  have reports := answer_reports name session system
  rw [failed] at reports
  obtain ⟨failure, cause, rfl⟩ := reports.failed
  exact failure_not_refused named good (Failure.input_refused input) cause

end Cli

/-- What the vault can answer to a lookup of a name, through its web service or by the client. -/
inductive VaultAnswers (name : String) : Answer Secret → Prop
  | service {answer : Answer Secret} (visit : Api.Visit)
      (answers : visit.answer? name = some answer) : VaultAnswers name answer
  | client (session : Secret) (system : Nat → Cli.Command → Cli.Launch) :
      VaultAnswers name (Cli.answer name session system)

theorem PathName.Proper.input_accepted {name : String} (proper : Proper name) {error : VaultError}
    (failed : VaultAnswers name (.error error)) : error.kind ≠ .invalidInput := by
  generalize same : (Except.error error : Answer Secret) = answer at failed
  cases failed with
  | service visit answers => exact Api.Visit.input_accepted proper.lookupName (same ▸ answers)
  | client session system => exact Cli.input_accepted proper.lookupName proper.argument same.symm

namespace Http.Service

/-- The responses that a request can get: at once, when the vault has answered its lookup, or for
want of an answer, where others may have changed the service meanwhile but not its policy. -/
inductive Responds (service : Service) (request : Request) (now : Instant) : Response → Prop
  | atOnce {after : Service} {response : Response}
      (answered : service.accept request now = (after, .answered response)) :
      Responds service request now response
  | looked {after later : Service} {lookup : Lookup} {answer : Answer Secret}
      (waits : service.accept request now = (after, .fetching lookup))
      (samePolicy : later.policy = service.policy)
      (answers : VaultAnswers lookup.name answer) (moment : Instant) :
      Responds service request now (later.finishLookup request lookup answer moment).2
  | brokeDown {after later : Service} {lookup : Lookup}
      (waits : service.accept request now = (after, .fetching lookup))
      (samePolicy : later.policy = service.policy) :
      Responds service request now (later.breakDown request)
  | overdue {after later : Service} {lookup : Lookup}
      (waits : service.accept request now = (after, .fetching lookup))
      (samePolicy : later.policy = service.policy) :
      Responds service request now (later.giveUp request)

/-- The answer that a name has no valid format. -/
def invalidName (service : Service) (request : Request) : Response :=
  ((Refusal.badRequest "invalid secret name format").response.encode request).dress
    service.policy request

variable {service : Service} {request : Request} {now : Instant} {name escaped : String}

theorem lookup_invalid (unescaped : Route.unescape escaped = some name)
    (invalid : PathName.isValid name = false) :
    (service.lookup request escaped now).2 = .answered (service.invalidName request) := by
  simp only [lookup, unescaped, invalid]
  rfl

/-- A valid name is answered with its value, or its lookup begins. -/
theorem lookup_valid (unescaped : Route.unescape escaped = some name)
    (valid : PathName.isValid name = true) :
    (∃ value, (service.lookup request escaped now).2 =
      .answered (((secretFound name value).encode request).dress service.policy request)) ∨
    ∃ lookup : Lookup, lookup.name = name ∧
      (service.lookup request escaped now).2 = .fetching lookup := by
  simp only [lookup, unescaped, valid, Bool.not_true, Bool.false_eq_true, if_false]
  rcases service.resolver.begin_cases name now with
    ⟨empty, _⟩ | ⟨value, _, answered⟩ | ⟨_, fetching⟩
  · subst empty
    exact absurd valid (by decide +kernel)
  · rw [answered]
    exact Or.inl ⟨value, rfl⟩
  · rw [fetching]
    exact Or.inr ⟨_, rfl, rfl⟩

/-- Only a failure for the input is answered as a bad request. -/
theorem lookupResponse_status {policy : Policy} {answer : Answer Secret}
    (accepted : ∀ error, answer = .error error → error.kind ≠ .invalidInput) :
    (lookupResponse policy name answer).status ≠ 400 := by
  cases answer with
  | ok value => simp [lookupResponse, secretFound, Response.json]
  | error error =>
      have kind := accepted error rfl
      simp only [lookupResponse, refusal_status, Refusal.ofVaultError]
      cases found : error.kind <;> simp_all [Refusal.status]

theorem finishLookup_status (lookup : Lookup) {answer : Answer Secret} (moment : Instant)
    (accepted : ∀ error, answer = .error error → error.kind ≠ .invalidInput) :
    (service.finishLookup request lookup answer moment).2.status ≠ 400 := by
  simp only [finishLookup]
  cases settled : (service.resolver.finish lookup answer moment).2 with
  | none =>
      change (service.breakDown request).status ≠ 400
      rw [breakDown, fit_status]
      decide
  | some returned =>
      obtain rfl := Resolver.finish_answer _ _ _ _ _ settled
      change (((lookupResponse service.policy lookup.name _).encode request).dress
        service.policy request).status ≠ 400
      rw [dress_status, encode_status]
      exact lookupResponse_status accepted

theorem Responds.at_once {response answer : Response}
    (responds : service.Responds request now response)
    (answered : (service.accept request now).2 = .answered answer) : response = answer := by
  cases responds with
  | atOnce own =>
      rw [own] at answered
      exact Progress.answered.inj answered
  | looked waits | brokeDown waits | overdue waits =>
      rw [waits] at answered
      cases answered

/-- A request for a secret that passes the gates is looked up. -/
theorem accept_looked (found : service.policy.route? request = some (.secret escaped))
    (reads : request.method = "GET") (granted : service.Grants request now)
    (allowed : service.Allows request) (known : service.Knows request) :
    service.accept request now = (service.limited request now).lookup request escaped now := by
  have ordinary : request.isPreflight = false := by simp [Request.isPreflight, reads]
  rw [accept_handled ordinary granted found fun _ => access_fault_none.mpr ⟨allowed, known⟩]
  simp [handle, Route.serves, Route.methods, reads]

theorem responds_valid (found : service.policy.route? request = some (.secret escaped))
    (reads : request.method = "GET") (granted : service.Grants request now)
    (allowed : service.Allows request) (known : service.Knows request)
    (unescaped : Route.unescape escaped = some name) (valid : PathName.isValid name = true)
    {response : Response} (responds : service.Responds request now response) :
    response.status ≠ 400 := by
  have proper : PathName.Proper name := (PathName.isValid_iff name).mp valid
  have begun : (∃ value, (service.accept request now).2 =
      .answered (((secretFound name value).encode request).dress service.policy request)) ∨
      ∃ lookup : Lookup, lookup.name = name ∧
        (service.accept request now).2 = .fetching lookup := by
    rw [accept_looked found reads granted allowed known]
    exact lookup_valid unescaped valid
  cases responds with
  | atOnce answered =>
      rw [answered] at begun
      rcases begun with ⟨value, served⟩ | ⟨lookup, _, fetching⟩
      · cases served
        rw [dress_status, encode_status]
        simp [secretFound, Response.json]
      · cases fetching
  | looked waits samePolicy answers moment =>
      rw [waits] at begun
      rcases begun with ⟨value, served⟩ | ⟨lookup, named, fetching⟩
      · cases served
      · cases fetching
        subst named
        apply finishLookup_status
        rintro error rfl
        exact proper.input_accepted answers
  | brokeDown waits samePolicy =>
      rw [breakDown, fit_status]
      decide
  | overdue waits samePolicy =>
      rw [giveUp, dress_status]
      decide

/-- What is valid as a name in a path: the grammar says it, and so does the pattern with its
conditions on the side. Such a name passes all checks of names, arguments and commands, so that no
lookup of it fails for its input. Of the requests for secrets that pass the gates, just those for
other names are answered as having no valid name. -/
theorem path_names_pass (name : String) :
    (PathName.isValid name = true ↔ PathName.Proper name) ∧
    (PathName.isValid name = true ↔
      name ≠ "" ∧ name.utf8ByteSize ≤ 255 ∧ ¬ ['.', '.'] <:+: name.toList ∧
        '\x00' ∉ name.toList ∧ (∀ byte ∈ Text.utf8 name, 32 ≤ byte ∧ byte ≤ 126) ∧
        name.toList ∈ PathName.pattern.matches') ∧
    (PathName.isValid name = true →
      LookupName.check name = .ok () ∧ Argument.check name = .ok () ∧
      (∀ session, (Cli.Command.getItem name session).check = .ok () ∧
        (Cli.Command.searchItems name session).check = .ok ()) ∧
      ∀ error, VaultAnswers name (.error error) → error.kind ≠ .invalidInput) ∧
    ∀ (service : Service) (request : Request) (now : Instant) (escaped : String),
      service.policy.route? request = some (.secret escaped) → request.method = "GET" →
      service.Grants request now → service.Allows request → service.Knows request →
      Route.unescape escaped = some name →
        (PathName.isValid name = false →
          (service.accept request now).2 = .answered (service.invalidName request)) ∧
        ∀ response, service.Responds request now response →
          (response.status = 400 ↔ PathName.isValid name = false) ∧
          (response = service.invalidName request ↔ PathName.isValid name = false) := by
  refine ⟨PathName.isValid_iff name, PathName.isValid_iff_pattern name, ?_, ?_⟩
  · intro valid
    have proper := (PathName.isValid_iff name).mp valid
    refine ⟨?_, ?_, ?_, fun error failed => proper.input_accepted failed⟩
    · rw [LookupName.check, proper.lookupName]
    · rw [Argument.check, proper.argument]
    · intro session
      rw [Cli.Command.check, Cli.Command.check, Cli.Command.getItem_admitted proper.argument,
        Cli.Command.searchItems_admitted proper.argument]
      exact ⟨rfl, rfl⟩
  · intro service request now escaped found reads granted allowed known unescaped
    have rejects : PathName.isValid name = false →
        (service.accept request now).2 = .answered (service.invalidName request) := by
      intro invalid
      rw [accept_looked found reads granted allowed known]
      exact lookup_invalid unescaped invalid
    refine ⟨rejects, ?_⟩
    intro response responds
    have rejection : (service.invalidName request).status = 400 := by
      rw [invalidName, dress_status, encode_status]
      rfl
    cases valid : PathName.isValid name with
    | true =>
        have other := responds_valid found reads granted allowed known unescaped valid responds
        refine ⟨iff_of_false other (by simp), iff_of_false ?_ (by simp)⟩
        rintro rfl
        exact other rejection
    | false =>
        obtain rfl := responds.at_once (rejects valid)
        exact ⟨iff_of_true rejection rfl, iff_of_true rfl rfl⟩

example : PathName.isValid "prod/db-password" = true ∧ PathName.isValid "a..b" = false := by
  decide +kernel

end Http.Service
end SecretBroker
