import SecretBroker.Proofs.TokenTurns
import SecretBroker.Rehearsal.Exchanges

/-!
How a lookup through the vault's web service can fail. A failure is told apart by its place and its
manner alone: the status of an answer or the reason why there is none, whether a body can be read,
and whether it has an entry of the name and that entry a value. What the services sent besides is no
part of it, and neither are credentials and tokens; and it settles the error that the caller gets.
-/

namespace SecretBroker

/-- An answer that goes with a failure, whose error it has, or with none. -/
def Reports {Failure : Type} (error : Failure → VaultError) (failure : Option Failure)
    (answer : Answer Secret) : Prop :=
  match failure with
  | some failure => answer = .error (error failure)
  | none => ∃ value, answer = .ok value

theorem Reports.same {Failure : Type} {error : Failure → VaultError} {failure : Option Failure}
    {one other : VaultError} (first : Reports error failure (.error one))
    (second : Reports error failure (.error other)) : one = other := by
  cases failure with
  | none =>
      obtain ⟨value, answered⟩ := first
      cases answered
  | some failure => exact (Except.error.inj first).trans (Except.error.inj second).symm

end SecretBroker

namespace SecretBroker.Api

/-- How a call of a service went wrong. -/
inductive Mishap where
  | undelivered (fault : CallFault)
  | status (code : Nat)
  | unreadable
  deriving DecidableEq, Repr

inductive Failure where
  | refused (fault : LookupName.Fault)
  | exchange (mishap : Mishap)
  | emptyToken
  | listing (mishap : Mishap)
  | unmatched
  | valueless
  deriving DecidableEq, Repr

/-- What a body holds, if there is one that can be read. -/
def Delivery.read {α : Type} (decode : Json → Option α) : Delivery → Except Mishap α
  | .none fault => .error (.undelivered fault)
  | .answer status body =>
    if status ≠ 200 then .error (.status status)
    else
      match (body.bind Json.readBytes).bind decode with
      | .some content => .ok content
      | .none => .error .unreadable

/-- All that a lookup meets with: the desk when the lookup looks for a token, at first or when it
has the turn, and what the services answer to the calls that it makes. -/
structure Visit where
  baseUrl : String
  credentials : Credentials
  desk : Desk
  caller : Nat
  now : Instant
  identity : Call → Delivery
  vault : Call → Delivery

namespace Visit

def exchanged (visit : Visit) : Delivery :=
  visit.identity (exchangeCall visit.baseUrl visit.credentials)

def token? (visit : Visit) : Option (Answer Secret) :=
  match visit.desk.proceed visit.caller visit.now with
  | (_, .served token) => some (.ok token)
  | (desk, .exchange) => (desk.settle visit.caller (Grant.ofDelivery visit.exchanged)).2

def listing (visit : Visit) (token : Secret) : Delivery :=
  match listingCall? visit.baseUrl token with
  | some call => visit.vault call
  | none => .none .failed

/-- What the lookup comes to; there is no answer if it breaks down. -/
def answer? (visit : Visit) (name : String) : Option (Answer Secret) :=
  match LookupName.fault? name with
  | some fault => some (.error fault.error)
  | none =>
    match visit.token? with
    | some (.ok token) => some (found name (visit.listing token))
    | settled => settled

end Visit

/-! Where and how a visit fails. -/

/-- The grant of an exchange, which needs a token that is not empty. -/
def exchangeGrant (delivery : Delivery) : Except Failure Grant :=
  match delivery.read Grant.ofJson with
  | .error mishap => .error (.exchange mishap)
  | .ok grant => if grant.token.isEmpty then .error .emptyToken else .ok grant

def listingFailure? (name : String) (delivery : Delivery) : Option Failure :=
  match delivery.read Entry.listOfJson with
  | .error mishap => some (.listing mishap)
  | .ok entries =>
    match entries.find? (·.nameOrEmpty = name) with
    | none => some .unmatched
    | some entry => if entry.listedValue.isSome then none else some .valueless

def Visit.failure? (visit : Visit) (name : String) : Option Failure :=
  match LookupName.fault? name with
  | some fault => some (.refused fault)
  | none =>
    match visit.desk.fresh? visit.now with
    | some token => listingFailure? name (visit.listing token)
    | none =>
      match exchangeGrant visit.exchanged with
      | .error failure => some failure
      | .ok grant => listingFailure? name (visit.listing grant.token)

def Mishap.exchangeError : Mishap → VaultError
  | .undelivered fault => fault.error
  | .status code => .authRejected code
  | .unreadable => .invalidResponse "token response is not valid JSON"

def Mishap.listingError : Mishap → VaultError
  | .undelivered fault => fault.error
  | .status code => .vaultStatus code
  | .unreadable => .invalidResponse "cipher list is not valid JSON"

def Failure.error (name : String) : Failure → VaultError
  | .refused fault => fault.error
  | .exchange mishap => mishap.exchangeError
  | .emptyToken => .invalidResponse "token response has empty access_token"
  | .listing mishap => mishap.listingError
  | .unmatched => .notFound name
  | .valueless => .noValue name

theorem grant_reported (name : String) (delivery : Delivery) :
    Grant.ofDelivery delivery = (exchangeGrant delivery).mapError (Failure.error name) := by
  cases delivery with
  | none fault => rfl
  | answer status body =>
      unfold Grant.ofDelivery exchangeGrant Delivery.read
      by_cases accepted : status = 200
      · cases content : (body.bind Json.readBytes).bind Grant.ofJson with
        | none => simp [accepted, content, Except.mapError, Failure.error, Mishap.exchangeError]
        | some grant =>
            by_cases empty : grant.token.isEmpty = true <;>
              simp [accepted, content, empty, Except.mapError, Failure.error]
      · simp [accepted, Except.mapError, Failure.error, Mishap.exchangeError]

theorem listed_reported (delivery : Delivery) :
    listed delivery = (delivery.read Entry.listOfJson).mapError Mishap.listingError := by
  cases delivery with
  | none fault => rfl
  | answer status body =>
      unfold listed Delivery.read
      by_cases accepted : status = 200
      · cases content : (body.bind Json.readBytes).bind Entry.listOfJson <;>
          simp [accepted, content, Except.mapError, Mishap.listingError]
      · simp [accepted, Except.mapError, Mishap.listingError]

theorem found_reports (name : String) (delivery : Delivery) :
    Reports (Failure.error name) (listingFailure? name delivery) (found name delivery) := by
  unfold found listingFailure?
  rw [listed_reported]
  cases delivery.read Entry.listOfJson with
  | error mishap => rfl
  | ok entries =>
      change Reports (Failure.error name) _ (valueNamed name entries)
      unfold valueNamed
      dsimp only
      cases entries.find? (·.nameOrEmpty = name) with
      | none => rfl
      | some entry =>
          dsimp only
          cases value : entry.listedValue with
          | none => rfl
          | some text => exact ⟨_, rfl⟩

/-- What comes of an exchange is settled by its answer and by when it began. -/
theorem Desk.settle_answer {one other : Desk} (same : one.exchanging = other.exchanging)
    (caller asker : Nat) (granted : Answer Grant) :
    (one.settle caller granted).2 = (other.settle asker granted).2 := by
  cases granted with
  | error error => rfl
  | ok grant =>
      simp only [Desk.settle, Desk.tokenOf?, same]
      cases Token.granted grant.token grant.lifetime (other.exchanging.getD 0) <;> rfl

namespace Visit

theorem token_fresh {visit : Visit} {token : Secret}
    (fresh : visit.desk.fresh? visit.now = some token) : visit.token? = some (.ok token) := by
  simp [token?, Desk.proceed, fresh]

theorem token_settled {visit : Visit} (stale : visit.desk.fresh? visit.now = none) :
    visit.token? = (({ visit.desk with exchanging := some visit.now } : Desk).settle
      visit.caller (Grant.ofDelivery visit.exchanged)).2 := by
  simp [token?, Desk.proceed, stale]

/-- Where no token is fresh the caller gets the one of its grant, or breaks down over it. -/
theorem token_stale {visit : Visit} (stale : visit.desk.fresh? visit.now = none) :
    visit.token? = none ∨
      visit.token? = some ((Grant.ofDelivery visit.exchanged).map Grant.token) := by
  rw [token_settled stale]
  cases Grant.ofDelivery visit.exchanged with
  | error error => exact Or.inr rfl
  | ok grant =>
      simp only [Desk.settle, Desk.tokenOf?, Token.granted]
      -- There may be no instant as late as the one when the token would run out.
      cases Instant.after _ (grant.lifetime.dropUpTo Token.margin) with
      | none => exact Or.inl rfl
      | some expiry => exact Or.inr rfl

/-- Every answer of a lookup goes with its failure. -/
theorem answer_reports {visit : Visit} {name : String} {answer : Answer Secret}
    (answers : visit.answer? name = some answer) :
    Reports (Failure.error name) (visit.failure? name) answer := by
  unfold answer? at answers
  unfold failure?
  cases refused : LookupName.fault? name with
  | some fault =>
      rw [refused] at answers
      exact (Option.some.inj answers).symm
  | none =>
      simp only [refused] at answers
      cases fresh : visit.desk.fresh? visit.now with
      | some token =>
          rw [token_fresh fresh] at answers
          obtain rfl := Option.some.inj answers
          exact found_reports name (visit.listing token)
      | none =>
          rcases token_stale fresh with broken | ended
          · rw [broken] at answers
            cases answers
          · rw [ended, grant_reported name] at answers
            cases granted : exchangeGrant visit.exchanged with
            | error failure =>
                rw [granted] at answers
                exact (Option.some.inj answers).symm
            | ok grant =>
                rw [granted] at answers
                obtain rfl := Option.some.inj answers
                exact found_reports name (visit.listing grant.token)

end Visit
end SecretBroker.Api

namespace SecretBroker.Rehearsal.Exchanges

open Api

/-- What a lookup in a rehearsal meets with. -/
def visit (run : Exchanges) : Visit where
  baseUrl := run.baseUrl
  credentials := run.credentials
  desk := run.desk
  caller := 0
  now := run.now
  identity call := (run.call call).2
  vault call := (run.token.1.call call).2

theorem token_served {run : Exchanges} {token : Secret}
    (fresh : run.desk.fresh? run.now = some token) : run.token = (run, some (.ok token)) := by
  simp [Exchanges.token, tokens, Desk.arrive, fresh]

theorem token_turn {run : Exchanges} (stale : run.desk.fresh? run.now = none) :
    run.token = { run with desk := run.desk.ask 0 }.serveHolder 0 := by
  simp [Exchanges.token, tokens, Desk.arrive, stale]

theorem serveHolder_baseUrl (run : Exchanges) (caller : Nat) :
    (run.serveHolder caller).1.baseUrl = run.baseUrl := by
  unfold serveHolder
  split <;> rfl

theorem serveHolder_settled (run : Exchanges) (stale : run.desk.fresh? run.now = none)
    (caller : Nat) :
    (run.serveHolder caller).2 =
      (({ run.desk with exchanging := some run.now } : Desk).settle caller
        (Grant.ofDelivery (run.call (exchangeCall run.baseUrl run.credentials)).2)).2 := by
  unfold serveHolder
  rw [Desk.proceed_stale stale]
  rfl

theorem token_visit (run : Exchanges) : run.token.2 = run.visit.token? := by
  cases fresh : run.desk.fresh? run.now with
  | some token => rw [token_served fresh, Visit.token_fresh fresh]
  | none =>
      rw [token_turn fresh, Visit.token_settled fresh]
      rw [serveHolder_settled { run with desk := run.desk.ask 0 } fresh]
      apply Desk.settle_answer
      rfl

theorem fetch_visit (run : Exchanges) (name : String) :
    (run.fetch name).2 = run.visit.answer? name := by
  unfold fetch Visit.answer?
  cases LookupName.fault? name with
  | some fault => rfl
  | none =>
      dsimp only
      rw [← token_visit]
      -- The listing goes where the lookup began, whatever became of the desk.
      have base : run.token.1.baseUrl = run.visit.baseUrl := by
        cases fresh : run.desk.fresh? run.now with
        | some token => rw [token_served fresh]; rfl
        | none => rw [token_turn fresh]; exact serveHolder_baseUrl _ 0
      cases reached : run.token with
      | mk after settled =>
          rw [reached] at base
          change after.baseUrl = run.visit.baseUrl at base
          match settled with
          | none => rfl
          | some (.error error) => rfl
          | some (.ok token) =>
              simp only [list, Visit.listing, base]
              cases listingCall? run.visit.baseUrl token with
              | none => rfl
              | some call => simp [visit, reached]

end SecretBroker.Rehearsal.Exchanges
