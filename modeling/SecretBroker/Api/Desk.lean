import SecretBroker.Api.Grant
import SecretBroker.Turns

/-!
The desk where callers get the vault's token. A token that is fresh is handed out at once. The
others take turns: whoever has the turn looks once more, for the one before may have brought a
token, and otherwise exchanges the credentials. An exchange that fails or is given up leaves
the token as it was.
-/

namespace SecretBroker.Api

structure Desk where
  current : Option Token
  turns : Turns
  /-- When the holder of the turn began its exchange. -/
  exchanging : Option Instant
  deriving DecidableEq

/-- What the holder of the turn does. -/
inductive Move where
  | served (token : Secret)
  | exchange

namespace Desk

def empty : Desk := ⟨none, .free, none⟩

def fresh? (desk : Desk) (now : Instant) : Option Secret :=
  match desk.current with
  | some token => if token.isFresh now then some token.secret else none
  | none => none

/-- A caller that found no fresh token asks for the turn. -/
def ask (desk : Desk) (caller : Nat) : Desk := { desk with turns := desk.turns.ask caller }

/-- A caller comes: it is served, or it asks for the turn. -/
def arrive (desk : Desk) (caller : Nat) (now : Instant) : Desk × Option Secret :=
  match desk.fresh? now with
  | some secret => (desk, some secret)
  | none => (desk.ask caller, none)

def leave (desk : Desk) (caller : Nat) : Desk :=
  { desk with
    turns := desk.turns.leave caller
    exchanging := if desk.turns.holds caller then none else desk.exchanging }

/-- The caller that has the turn looks for a token. -/
def proceed (desk : Desk) (caller : Nat) (now : Instant) : Desk × Move :=
  match desk.fresh? now with
  | some secret => (desk.leave caller, .served secret)
  | none => ({ desk with exchanging := some now }, .exchange)

/-- The token of a grant, whose lifetime counts from the beginning of the exchange; `none` if its
end is no instant. -/
def tokenOf? (desk : Desk) (grant : Grant) : Option Token :=
  Token.granted grant.token grant.lifetime (desk.exchanging.getD 0)

/-- What the caller that has the turn does with the token of its grant. There is no answer without
one. -/
def receive (desk : Desk) (caller : Nat) : Option Token → Desk × Option (Answer Secret)
  | none => (desk.leave caller, none)
  | some token => ({ desk.leave caller with current := some token }, some (.ok token.secret))

/-- The exchange of the caller that has the turn is over. -/
def settle (desk : Desk) (caller : Nat) (granted : Answer Grant) : Desk × Option (Answer Secret) :=
  match granted with
  | .error error => (desk.leave caller, some (.error error))
  | .ok grant => desk.receive caller (desk.tokenOf? grant)

/-- Forgets the token. -/
def invalidate (desk : Desk) : Desk := { desk with current := none }

end Desk
end SecretBroker.Api
