import SecretBroker.Text.Blank
import SecretBroker.Text.Fold
import SecretBroker.Text.Unsigned
import SecretBroker.Text.Utf8
import SecretBroker.Settings.Fault

/-!
Log filters: comma separated directives, each a level, a target, or a target with a span and
fields in brackets, followed by a level after an equals sign. Only whether a filter is well
formed matters to the service.
-/

namespace SecretBroker.LogFilter

inductive Fault where
  | directive
  | level
  deriving DecidableEq, Repr

def Fault.message : Fault → String
  | .directive => "invalid filter directive"
  | .level =>
    "error parsing level filter: expected one of \"off\", \"error\", \"warn\", \"info\", " ++
      "\"debug\", \"trace\", or a number 0-5"

/-- A level is a word in any case or a number up to five; the empty text is one, too. -/
def isLevel (text : String) : Bool :=
  match Text.unsigned 0xffffffffffffffff text with
  | .ok n => n ≤ 5
  | .error _ =>
    ["", "off", "error", "warn", "info", "debug", "trace"].contains (Text.foldAscii text)

inductive State where
  | start
  | target
  | span
  | field (isEmpty : Bool)
  | fields
  | closed
  | level (start : Nat)
  deriving DecidableEq, Repr

/-- A character beyond ASCII counts as a letter. -/
def canStart (c : Char) : Bool :=
  Text.isAsciiAlphanumeric c || 0x80 ≤ c.toNat || c = '-' || c = ':' || c = '_'

/-- One character further; `after` is the offset behind it. -/
def advance (state : State) (c : Char) (after : Nat) : Option State :=
  match state with
  | .start => if c = '[' then some .span else if canStart c then some .target else none
  | .target => if c = '=' then some (.level after) else if c = '[' then some .span else some .target
  | .span =>
    if c = ']' then some .closed else if c = '\x7b' then some (.field true) else some .span
  | .field isEmpty =>
    if c = '\x7d' then if isEmpty then none else some .fields else some (.field false)
  | .fields => if c = ']' then some .closed else none
  | .closed => if c = '=' then some (.level after) else none
  | .level start => some (.level start)

def scan : State → Nat → List Char → Option State
  | state, _, [] => some state
  | state, offset, c :: rest => do
    scan (← advance state c (offset + c.utf8Size)) (offset + c.utf8Size) rest

/-- Offsets are counted without leading blanks but applied with them, so a level behind blanks
is cut too early. -/
def directiveFault? (directive : String) : Option Fault :=
  match scan .start 0 (Text.trim directive).toList with
  | some .target | some .closed => none
  | some (.level start) =>
    let text := Text.decodeLossy ((Text.utf8 directive).drop start)
    if text = "" || isLevel text then none else some .level
  | _ => some .directive

def fault? (filter : String) : Option Fault :=
  ((Text.split ',' filter).filter (· ≠ "")).findSome? directiveFault?

def check (filter : String) : Except ServiceError Unit :=
  match fault? filter with
  | some fault => .error (.config ("Invalid log level '" ++ filter ++ "': " ++ fault.message))
  | none => .ok ()

end SecretBroker.LogFilter
