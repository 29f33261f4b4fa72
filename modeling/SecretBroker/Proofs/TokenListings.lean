import SecretBroker.Api.Listing
import SecretBroker.Proofs.TokenCalls

/-!
Many lookups through the vault's web service at once, in any order of their steps. A lookup gets a
token at the desk, asks for the listing with it, and has the desk forget its token if the vault
turns the listing's token away. What the identity service and the vault answer, and when, is
arbitrary. The history records what happened and when, the latest first.
-/

namespace SecretBroker.Api

inductive TokenUse where
  | holding (token : Secret)
  /-- The listing is under way. -/
  | listing (token : Secret)
  deriving DecidableEq

def TokenUse.token : TokenUse → Secret
  | .holding token | .listing token => token

inductive Occurrence where
  /-- A lookup came for a token. -/
  | came (caller : Nat)
  /-- The identity service answered an exchange. -/
  | identified (caller : Nat) (answer : Answer Grant)
  | desk (event : Event)
  /-- A lookup asked for the listing. -/
  | sent (caller : Nat) (token : Secret)
  /-- The listing was answered, and a token that the vault turned away has been given up. -/
  | listed (caller : Nat) (token : Secret) (delivery : Delivery)
  deriving DecidableEq

structure Dated where
  moment : Instant
  occurrence : Occurrence
  deriving DecidableEq

structure Listings where
  calls : TokenCalls
  baseUrl : String
  uses : Nat → Option TokenUse
  history : List Dated

/-- What was recorded between two states of a run. -/
def TokenCalls.added (before after : TokenCalls) : List Event :=
  after.history.take (after.history.length - before.history.length)

namespace Listings

inductive Act where
  | fetch (name : String)
  | ask (caller : Nat)
  | look (caller : Nat)
  | identify (caller : Nat) (answer : Answer Grant)
  | send (caller : Nat)
  | list (caller : Nat) (delivery : Delivery)
  | giveUp (caller : Nat)
  | invalidate
  | elapse (span : Nat)

def start (baseUrl : String) (now : Instant) : Listings :=
  ⟨.start none now, baseUrl, fun _ => none, []⟩

def note (run : Listings) (occurrence : Occurrence) : Listings :=
  { run with history := ⟨run.calls.now, occurrence⟩ :: run.history }

def use (run : Listings) (caller : Nat) (use : Option TokenUse) : Listings :=
  { run with uses := Function.update run.uses caller use }

/-- Whoever is served at the desk holds the token from then on. -/
def observe (run : Listings) : Event → Listings
  | .served caller secret =>
    (run.note (.desk (.served caller secret))).use caller (some (.holding secret))
  | event => run.note (.desk event)

def follow (run : Listings) (after : TokenCalls) : Listings :=
  (run.calls.added after).foldr (fun event run => run.observe event) { run with calls := after }

def move (run : Listings) (act : TokenCalls.Act) : Listings := run.follow (run.calls.step act)

/-- One act; one that cannot happen changes nothing. -/
def step (run : Listings) : Act → Listings
  | .fetch name =>
    match LookupName.fault? name with
    | some _ => run
    | none => (run.note (.came run.calls.callers)).move .come
  | .ask caller => run.move (.ask caller)
  | .look caller => run.move (.look caller)
  | .identify caller answer =>
    match run.calls.positions caller with
    | some (.exchanging _) => (run.note (.identified caller answer)).move (.finish caller answer)
    | _ => run
  | .send caller =>
    match run.uses caller with
    | some (.holding token) =>
      match listingCall? run.baseUrl token with
      | some _ => (run.note (.sent caller token)).use caller (some (.listing token))
      | none => run.use caller none
    | _ => run
  | .list caller delivery =>
    match run.uses caller with
    | some (.listing token) =>
      let handled := if rejectsToken delivery then run.move .invalidate else run
      (handled.note (.listed caller token delivery)).use caller none
    | _ => run
  | .giveUp caller => (run.move (.giveUp caller)).use caller none
  | .invalidate => run.move .invalidate
  | .elapse span => run.move (.elapse span)

/-- Every run of lookups, from an instant on and without a token. -/
def run (baseUrl : String) (now : Instant) (acts : List Act) : Listings :=
  acts.foldl step (start baseUrl now)

end Listings

def Occurrence.begins (caller : Nat) : Occurrence → Bool
  | .desk (.began other) => other == caller
  | _ => false

/-- When the exchange of a caller began: the last one, if there were several. -/
def exchangeStart? (history : List Dated) (caller : Nat) : Option Instant :=
  (history.find? (·.occurrence.begins caller)).map Dated.moment

/-- The token that the identity service issued. -/
def Occurrence.issued? : Occurrence → Option Secret
  | .identified _ (.ok grant) => some grant.token
  | _ => none

/-- All the tokens that the identity service has issued. -/
def issued (history : List Dated) : List Secret := history.filterMap (·.occurrence.issued?)

end SecretBroker.Api
