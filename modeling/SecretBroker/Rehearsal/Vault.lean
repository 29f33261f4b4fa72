import SecretBroker.Secret
import SecretBroker.Span
import SecretBroker.VaultError

/-!
A rehearsal runs the broker against outside parties that follow a script, on a clock that moves
only when something waits. This is the script of a vault: for each name the outcomes of its
fetches, in turn, the last of them for ever, and the outcomes of syncs likewise.
-/

namespace SecretBroker.Rehearsal

/-- The first of a list and what is left for the next time; the last one stays. -/
def takeTurn {α : Type} : List α → Option (α × List α)
  | [] => none
  | [last] => some (last, [last])
  | next :: rest => some (next, rest)

/-- How a fetch goes: after a delay it answers, or it breaks down without an answer. -/
structure Outcome where
  delay : Span
  answer : Option (Answer Secret)

structure Vault where
  outcomes : List (String × List Outcome)
  syncs : List (Option VaultError)
  /-- The names that were fetched, the latest first. -/
  fetched : List String
  synced : Nat

namespace Vault

def new (outcomes : List (String × List Outcome)) (syncs : List (Option VaultError)) : Vault :=
  ⟨outcomes, syncs, [], 0⟩

/-- A fetch begins. A name that the script does not have is not found. -/
def fetch (vault : Vault) (name : String) : Vault × Outcome :=
  let asked := { vault with fetched := name :: vault.fetched }
  match (vault.outcomes.lookup name).bind takeTurn with
  | none => (asked, ⟨.zero, some (.error (.notFound name))⟩)
  | some (outcome, rest) =>
    ({ asked with outcomes := vault.outcomes.map fun entry =>
        if entry.1 = name then (name, rest) else entry }, outcome)

def sync (vault : Vault) : Vault × Answer Unit :=
  let asked := { vault with synced := vault.synced + 1 }
  match takeTurn vault.syncs with
  | none | some (none, _) => ({ asked with syncs := (takeTurn vault.syncs).elim [] (·.2) }, .ok ())
  | some (some error, rest) => ({ asked with syncs := rest }, .error error)

end Vault
end SecretBroker.Rehearsal
