import SecretBroker.Cache.Sweeper

/-!
Runs of one cache with its sweeper: reads, writes, clears and cleanups in any order, timers that
go off at any moment, the sweeper's end, and time that passes. The history records each act with
what it came to, the latest first; what the cache should answer is read off the history alone.
-/

namespace SecretBroker

inductive CacheAct where
  | get (name : String)
  | put (name : String) (value : Secret)
  | putIfCurrent (name : String) (value : Secret) (generation : Nat)
  | clear
  | cleanup
  /-- The sweeper's timer goes off. -/
  | tick
  /-- The sweeper has done all that is due by now. -/
  | catchUp
  | shutdown
  | elapse (span : Nat)
  deriving DecidableEq

inductive CacheResult where
  | found (answer : Option Secret)
  | wrote (writing : Cache.Writing)
  | dropped (count : Nat)
  | nothing
  deriving DecidableEq

structure CacheRecord where
  moment : Instant
  act : CacheAct
  result : CacheResult

abbrev CacheHistory := List CacheRecord

def CacheAct.isClear : CacheAct → Bool
  | .clear => true
  | _ => false

/-- The name that an act may write. -/
def CacheAct.target? : CacheAct → Option String
  | .put name _ | .putIfCurrent name _ _ => some name
  | _ => none

/-- Reads and sweeps of all kinds, and what only lets time pass. -/
def CacheAct.isQuiet : CacheAct → Bool
  | .put _ _ | .putIfCurrent _ _ _ | .clear => false
  | _ => true

/-- The value that a record says was written under a name, and when. -/
def CacheRecord.write? (name : String) (record : CacheRecord) : Option (Secret × Instant) :=
  match record.act, record.result with
  | .put written value, .wrote .stored | .putIfCurrent written value _, .wrote .stored =>
    if written = name then some (value, record.moment) else none
  | _, _ => none

namespace CacheHistory

/-- The most recent successful write of a name since the last clear. -/
def lastWrite? (history : CacheHistory) (name : String) : Option (Secret × Instant) :=
  (history.takeWhile fun record => !record.act.isClear).findSome? (·.write? name)

def clears (history : CacheHistory) : Nat := history.countP (·.act.isClear)

/-- No write found that its entry expires at no instant. -/
def Unbroken (history : CacheHistory) : Prop :=
  ∀ record ∈ history, record.result ≠ .wrote .failed

instance (history : CacheHistory) : Decidable history.Unbroken :=
  inferInstanceAs (Decidable (∀ record ∈ history, record.result ≠ .wrote .failed))

end CacheHistory

structure CacheRun where
  now : Instant
  tended : TendedCache
  history : CacheHistory

namespace CacheRun

def start (ttl : Span) (now : Instant) : CacheRun := ⟨now, .start ttl now, []⟩

def cache (run : CacheRun) : Cache := run.tended.cache

/-- What an act leaves of the cache and its sweeper, and what it comes to. Timers catch up at
whole milliseconds only. -/
def outcome (run : CacheRun) : CacheAct → TendedCache × CacheResult
  | .get name => (run.tended, .found (run.cache.get name run.now))
  | .put name value =>
    let (cache, writing) := run.cache.put name value run.now
    ({ run.tended with cache }, .wrote writing)
  | .putIfCurrent name value generation =>
    let (cache, writing) := run.cache.putIfCurrent name value generation run.now
    ({ run.tended with cache }, .wrote writing)
  | .clear =>
    let (cache, count) := run.cache.clear
    ({ run.tended with cache }, .dropped count)
  | .cleanup =>
    let (cache, count) := run.cache.cleanup run.now
    ({ run.tended with cache }, .dropped count)
  | .tick =>
    (if run.tended.sweeper.isSome then { run.tended with cache := run.cache.sweep run.now }
      else run.tended, .nothing)
  | .catchUp =>
    (if Instant.ofMillis run.now.millis = run.now then run.tended.sweepUpTo run.now
      else run.tended, .nothing)
  | .shutdown => (run.tended.stop, .nothing)
  | .elapse _ => (run.tended, .nothing)

def result (run : CacheRun) (act : CacheAct) : CacheResult := (run.outcome act).2

def step (run : CacheRun) (act : CacheAct) : CacheRun where
  now :=
    match act with
    | .elapse span => run.now + span
    | _ => run.now
  tended := (run.outcome act).1
  history := ⟨run.now, act, run.result act⟩ :: run.history

/-- Every run of a cache with a lifetime, made at an instant. -/
def run (ttl : Span) (now : Instant) (acts : List CacheAct) : CacheRun :=
  acts.foldl step (start ttl now)

end CacheRun
end SecretBroker
