import Mathlib.Logic.Function.Basic
import SecretBroker.Resolver

/-!
Many resolves at once, in any order of their steps. A resolve reads the cache and notes its
generation, asks the vault, gets the vault's answer, and writes it back as it returns; it can be
given up at any point in between. Others clear and sweep the cache, and time passes. What the
vault answers, and when, is arbitrary. The history records what happened, the latest first.
-/

namespace SecretBroker

/-- How far a resolve has come that has not returned. -/
inductive Stage where
  /-- The cache did not have the name; its generation is noted. -/
  | missed (lookup : Lookup)
  | fetching (lookup : Lookup)
  /-- The vault has answered, and nothing is written back yet. -/
  | fetched (lookup : Lookup) (answer : Answer Secret) (since : Instant)

def Stage.lookup : Stage → Lookup
  | .missed lookup | .fetching lookup | .fetched lookup _ _ => lookup

inductive Happening where
  /-- A resolve began: the cache was read. -/
  | looked (caller : Nat) (name : String)
  /-- The vault was asked for a name. -/
  | asked (caller : Nat) (name : String)
  /-- The vault's answer arrived. -/
  | delivered (caller : Nat) (answer : Answer Secret)
  | returned (caller : Nat) (answer : Answer Secret)
  /-- A resolve ended without an answer. -/
  | left (caller : Nat)
  | cleared

def Happening.isClear : Happening → Bool
  | .cleared => true
  | _ => false

/-- The end of a resolve, which may be without an answer. -/
def Happening.ending (caller : Nat) : Option (Answer Secret) → Happening
  | some answer => .returned caller answer
  | none => .left caller

structure Record where
  moment : Instant
  what : Happening

abbrev History := List Record

/-- What happened since the cache was last cleared. -/
def History.sinceClear (history : History) : History :=
  history.takeWhile fun record => !record.what.isClear

structure Traffic where
  now : Instant
  resolver : Resolver
  /-- Resolves that have not returned, by caller. -/
  stages : Nat → Option Stage
  /-- The number of resolves that have begun, and the next caller. -/
  callers : Nat
  history : History

inductive Act where
  | look (name : String)
  | ask (caller : Nat)
  | deliver (caller : Nat) (answer : Answer Secret)
  | settle (caller : Nat)
  | giveUp (caller : Nat)
  | clear
  /-- What has expired at an instant is dropped. -/
  | sweep (moment : Instant)
  | elapse (span : Nat)

namespace Traffic

def start (ttl : Span) (now : Instant) : Traffic := ⟨now, .start ttl now, fun _ => none, 0, []⟩

def cache (traffic : Traffic) : Cache := traffic.resolver.cache

def note (traffic : Traffic) (what : Happening) : Traffic :=
  { traffic with history := ⟨traffic.now, what⟩ :: traffic.history }

def advance (traffic : Traffic) (caller : Nat) (stage : Option Stage) : Traffic :=
  { traffic with stages := Function.update traffic.stages caller stage }

def withResolver (traffic : Traffic) (resolver : Resolver) : Traffic := { traffic with resolver }

/-- A resolve begins. It ends at once if the name is no name or the cache has it. -/
def look (traffic : Traffic) (name : String) : Traffic :=
  let (resolver, resolving) := traffic.resolver.begin name traffic.now
  let caller := traffic.callers
  let opened : Traffic := { traffic with resolver, callers := caller + 1 }
  let begun := opened.note (.looked caller name)
  match resolving with
  | .answered answer => begun.note (.returned caller answer)
  | .fetching lookup => begun.advance caller (some (.missed lookup))

/-- A resolve writes its answer back and returns it, or breaks down over that. -/
def settle (traffic : Traffic) (caller : Nat) (lookup : Lookup) (answer : Answer Secret) :
    Traffic :=
  let finished := traffic.resolver.finish lookup answer traffic.now
  ((traffic.withResolver finished.1).note (.ending caller finished.2)).advance caller none

/-- One act; one that cannot happen changes nothing. -/
def step (traffic : Traffic) : Act → Traffic
  | .look name => traffic.look name
  | .ask caller =>
    match traffic.stages caller with
    | some (.missed lookup) =>
      (traffic.note (.asked caller lookup.name)).advance caller (some (.fetching lookup))
    | _ => traffic
  | .deliver caller answer =>
    match traffic.stages caller with
    | some (.fetching lookup) =>
      (traffic.note (.delivered caller answer)).advance caller
        (some (.fetched lookup answer traffic.now))
    | _ => traffic
  | .settle caller =>
    match traffic.stages caller with
    | some (.fetched lookup answer _) => traffic.settle caller lookup answer
    | _ => traffic
  | .giveUp caller =>
    match traffic.stages caller with
    | some _ => (traffic.note (.left caller)).advance caller none
    | none => traffic
  | .clear => (traffic.withResolver traffic.resolver.invalidate.1).note .cleared
  | .sweep moment =>
    traffic.withResolver (traffic.resolver.withCache (traffic.cache.sweep moment))
  | .elapse span => { traffic with now := traffic.now + span }

/-- Every run of a resolver whose cache has a lifetime, from an instant on. -/
def run (ttl : Span) (now : Instant) (acts : List Act) : Traffic :=
  acts.foldl step (start ttl now)

end Traffic
end SecretBroker
