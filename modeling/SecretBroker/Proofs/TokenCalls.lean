import Mathlib.Logic.Function.Basic
import SecretBroker.Api.Desk

/-!
Many callers for a token at once, in any order of their steps. A caller that finds no fresh token
asks for the turn, looks again when it has the turn, and then exchanges the credentials unless
somebody else has brought a token. It can be given up wherever it waits, the token can be
forgotten, and time passes. How exchanges end, and when, is arbitrary. The history records what
happened, the latest first.
-/

namespace SecretBroker.Api

/-- How far a caller has come that has not returned. -/
inductive Position where
  /-- It found no fresh token, and has not asked for the turn yet. -/
  | looked
  /-- It waits for the turn, or has it and has not looked again. -/
  | queued
  | exchanging (since : Instant)
  deriving DecidableEq

inductive Event where
  /-- An exchange began. -/
  | began (caller : Nat)
  /-- An exchange brought a token. -/
  | granted (caller : Nat) (token : Token)
  | failed (caller : Nat)
  /-- An exchange was given up. -/
  | abandoned (caller : Nat)
  /-- A caller returned with a token. -/
  | served (caller : Nat) (secret : Secret)
  /-- A caller was given up that did not exchange. -/
  | left (caller : Nat)
  | invalidated
  deriving DecidableEq

/-- The token that the end of an exchange brings, if it does. -/
def Desk.brought? (desk : Desk) : Answer Grant → Option Token
  | .ok grant => desk.tokenOf? grant
  | .error _ => none

structure TokenCalls where
  now : Instant
  desk : Desk
  positions : Nat → Option Position
  /-- The number of callers that have come, and the next one. -/
  callers : Nat
  history : List Event

namespace TokenCalls

inductive Act where
  | come
  | ask (caller : Nat)
  | look (caller : Nat)
  | finish (caller : Nat) (answer : Answer Grant)
  | giveUp (caller : Nat)
  | invalidate
  | elapse (span : Nat)

def start (current : Option Token) (now : Instant) : TokenCalls :=
  ⟨now, ⟨current, .free, none⟩, fun _ => none, 0, []⟩

def note (calls : TokenCalls) (event : Event) : TokenCalls :=
  { calls with history := event :: calls.history }

def withDesk (calls : TokenCalls) (desk : Desk) : TokenCalls := { calls with desk }

def place (calls : TokenCalls) (caller : Nat) (position : Option Position) : TokenCalls :=
  { calls with positions := Function.update calls.positions caller position }

/-- A caller comes. It is served at once where there is a fresh token. -/
def come (calls : TokenCalls) : TokenCalls :=
  let arrived := { calls with callers := calls.callers + 1 }
  match calls.desk.fresh? calls.now with
  | some secret => arrived.note (.served calls.callers secret)
  | none => arrived.place calls.callers (some .looked)

/-- The caller that has the turn looks again. -/
def look (calls : TokenCalls) (caller : Nat) : TokenCalls :=
  match calls.desk.proceed caller calls.now with
  | (desk, .served secret) =>
    ((calls.withDesk desk).note (.served caller secret)).place caller none
  | (desk, .exchange) =>
    ((calls.withDesk desk).note (.began caller)).place caller (some (.exchanging calls.now))

/-- The exchange of a caller ends, with a token or without one. -/
def finish (calls : TokenCalls) (caller : Nat) (answer : Answer Grant) : TokenCalls :=
  let (desk, settled) := calls.desk.settle caller answer
  let ended := (calls.withDesk desk).place caller none
  match calls.desk.brought? answer, settled with
  | some token, some (.ok secret) =>
    (ended.note (.granted caller token)).note (.served caller secret)
  | _, _ => ended.note (.failed caller)

def giveUp (calls : TokenCalls) (caller : Nat) (position : Position) : TokenCalls :=
  match position with
  | .looked => (calls.note (.left caller)).place caller none
  | .queued => ((calls.withDesk (calls.desk.leave caller)).note (.left caller)).place caller none
  | .exchanging _ =>
    ((calls.withDesk (calls.desk.leave caller)).note (.abandoned caller)).place caller none

/-- One act; one that cannot happen changes nothing. -/
def step (calls : TokenCalls) : Act → TokenCalls
  | .come => calls.come
  | .ask caller =>
    if calls.positions caller = some .looked then
      (calls.withDesk (calls.desk.ask caller)).place caller (some .queued)
    else calls
  | .look caller =>
    if calls.positions caller = some .queued ∧ calls.desk.turns.holder = some caller then
      calls.look caller
    else calls
  | .finish caller answer =>
    match calls.positions caller with
    | some (.exchanging _) => calls.finish caller answer
    | _ => calls
  | .giveUp caller =>
    match calls.positions caller with
    | some position => calls.giveUp caller position
    | none => calls
  | .invalidate => (calls.withDesk calls.desk.invalidate).note .invalidated
  | .elapse span => { calls with now := calls.now + span }

/-- Every run of callers, from an instant on and whatever token there is then. -/
def run (current : Option Token) (now : Instant) (acts : List Act) : TokenCalls :=
  acts.foldl step (start current now)

end TokenCalls
end SecretBroker.Api
