import SecretBroker.Span
import SecretBroker.Text.Blank
import SecretBroker.Text.Fold

/-!
Spans as people write them: parts of a number and a unit, such as `1h 30m` or `0.5 days`.
A fraction must come out even in the unit's finer measure, and nothing is rounded.
-/

namespace SecretBroker.Span.Text

open SecretBroker.Text

inductive SpanUnit where
  | nanosecond
  | microsecond
  | millisecond
  | second
  | minute
  | hour
  | day
  | week
  | month
  | year
  deriving DecidableEq, Repr

namespace SpanUnit

def ofWord : String → Option SpanUnit
  | "nanos" | "nsec" | "ns" => some .nanosecond
  | "usec" | "us" | "µs" => some .microsecond
  | "millis" | "msec" | "ms" => some .millisecond
  | "seconds" | "second" | "secs" | "sec" | "s" => some .second
  | "minutes" | "minute" | "min" | "mins" | "m" => some .minute
  | "hours" | "hour" | "hrs" | "hr" | "h" => some .hour
  | "days" | "day" | "d" => some .day
  | "weeks" | "week" | "wks" | "wk" | "w" => some .week
  | "months" | "month" | "M" => some .month
  | "years" | "year" | "yrs" | "yr" | "y" => some .year
  | _ => none

/-- How many whole seconds, or for the small units how many nanoseconds, one unit is.
A month is 30.44 days and a year 365.25. -/
def scale : SpanUnit → Sum Nat Nat
  | .nanosecond => .inr 1
  | .microsecond => .inr 1000
  | .millisecond => .inr 1000000
  | .second => .inl 1
  | .minute => .inl 60
  | .hour => .inl 3600
  | .day => .inl 86400
  | .week => .inl 604800
  | .month => .inl 2630016
  | .year => .inl 31557600

/-- The measure in which a fraction of the unit must be whole. A fraction of a nanosecond is
never taken; up to a minute the measure is the nanosecond, above it the second. -/
def fractionScale : SpanUnit → Option (Sum Nat Nat)
  | .nanosecond => none
  | .microsecond => some (.inr 1000)
  | .millisecond => some (.inr 1000000)
  | .second => some (.inr 1000000000)
  | .minute => some (.inr 60000000000)
  | unit => some unit.scale

end SpanUnit

inductive Fault where
  | empty
  | invalidCharacter (offset : Nat)
  | numberExpected (offset : Nat)
  | unitNeeded (value : Nat)
  | unknownUnit (word : String)
  | unrepresentable
  /-- The sum passes the longest span by a carry of whole nanoseconds, which aborts. -/
  | carriedPastEnd
  deriving DecidableEq, Repr

def Fault.message : Fault → String
  | .empty => "value was empty"
  | .invalidCharacter offset => "invalid character at " ++ toString offset
  | .numberExpected offset => "expected number at " ++ toString offset
  | .unitNeeded value =>
    let n := toString value
    "time unit needed, for example " ++ n ++ "sec or " ++ n ++ "ms"
  | .unknownUnit word =>
    "unknown time unit \"" ++ word ++ "\", supported units: ns, us/µs, ms, sec, min, hours, " ++
      "days, weeks, months, years (and few variations)"
  | .unrepresentable =>
    "number is too large or cannot be represented without a lack of precision " ++
      "(values below 1ns are not supported)"
  | .carriedPastEnd => "overflow when adding durations"

def within64 (n : Nat) : Except Fault Nat :=
  if n ≤ secondsBound then .ok n else .error .unrepresentable

/-- Adds seconds and nanoseconds to a sum. Nanoseconds are carried only when there are more than
a second of them; exactly a second of them is carried afterwards, and then must still fit. -/
def add (sum : Span) (seconds nanos : Nat) : Except Fault Span := do
  let loose ← within64 (sum.nanos + nanos)
  let (carried, rest) ←
    if nanosPerSecond < loose then do
      let carried ← within64 (seconds + loose / nanosPerSecond)
      pure (carried, loose % nanosPerSecond)
    else pure (seconds, loose)
  let whole ← within64 (sum.seconds + carried)
  if rest = nanosPerSecond then
    if whole + 1 ≤ secondsBound then .ok ⟨whole + 1, 0⟩ else .error .carriedPastEnd
  else .ok ⟨whole, rest⟩

def addScaled (sum : Span) (count : Nat) : Sum Nat Nat → Except Fault Span
  | .inl seconds => do add sum (← within64 (count * seconds)) 0
  | .inr nanos => do add sum 0 (← within64 (count * nanos))

structure Fraction where
  numerator : Nat
  denominator : Nat
  deriving DecidableEq, Repr

def addFraction (sum : Span) (fraction : Fraction) (scale : Sum Nat Nat) : Except Fault Span := do
  let even (factor : Nat) : Except Fault Nat := do
    let product ← within64 (fraction.numerator * factor)
    if product % fraction.denominator = 0 then pure (product / fraction.denominator)
    else .error .unrepresentable
  match scale with
  | .inl seconds => add sum (← even seconds) 0
  | .inr nanos => add sum 0 (← even nanos)

def addPart (sum : Span) (value : Nat) (fraction : Option Fraction) (word : List Char) :
    Except Fault Span :=
  match SpanUnit.ofWord (String.ofList word) with
  | none => .error (if word.isEmpty then .unitNeeded value else .unknownUnit (String.ofList word))
  | some unit => do
    let whole ← addScaled sum value unit.scale
    match fraction with
    | none => pure whole
    | some fraction =>
      match unit.fractionScale with
      | none => .error .unrepresentable
      | some scale => addFraction whole fraction scale

def isUnitLetter (c : Char) : Bool := isAsciiLetter c || c = 'µ'

def digitValue (c : Char) : Nat := c.toNat - '0'.toNat

/-- Where a reader stands: byte offset and the characters left. -/
structure Cursor where
  offset : Nat
  rest : List Char

namespace Cursor

def next? (cursor : Cursor) : Option (Char × Cursor) :=
  match cursor.rest with
  | [] => none
  | c :: rest => some (c, ⟨cursor.offset + c.utf8Size, rest⟩)

end Cursor

/-- Blanks up to the first digit of a part; `none` where the text ends instead.
A character that starts no number is told by where the search began. -/
def firstDigit (start : Nat) : Nat → List Char → Except Fault (Option (Nat × Cursor))
  | _, [] => .ok none
  | offset, c :: rest =>
    if isAsciiDigit c then .ok (some (digitValue c, ⟨offset + c.utf8Size, rest⟩))
    else if isBlank c then firstDigit start (offset + c.utf8Size) rest
    else .error (.numberExpected start)

/-- The digits after the point. Stops at the first letter, whose offset is where the unit starts. -/
def fractionDigits (fraction : Fraction) : Nat → List Char → Except Fault (Fraction × Cursor)
  | offset, [] => .ok (fraction, ⟨offset, []⟩)
  | offset, c :: rest =>
    if isAsciiDigit c then do
      let denominator ← within64 (fraction.denominator * 10)
      let numerator ← within64 (fraction.numerator * 10 + digitValue c)
      fractionDigits ⟨numerator, denominator⟩ (offset + c.utf8Size) rest
    else if isBlank c then fractionDigits fraction (offset + c.utf8Size) rest
    else if isUnitLetter c then .ok (fraction, ⟨offset, c :: rest⟩)
    else .error (.invalidCharacter offset)

/-- The rest of a part's number, digits and blanks, and its fraction if a point follows. The
cursor is left on the unit's first letter. -/
def number (value : Nat) : Nat → List Char → Except Fault (Nat × Option Fraction × Cursor)
  | offset, [] => .ok (value, none, ⟨offset, []⟩)
  | offset, c :: rest =>
    if isAsciiDigit c then do
      number (← within64 (value * 10 + digitValue c)) (offset + c.utf8Size) rest
    else if isBlank c then number value (offset + c.utf8Size) rest
    else if isUnitLetter c then .ok (value, none, ⟨offset, c :: rest⟩)
    else if c = '.' then do
      let (fraction, cursor) ← fractionDigits ⟨0, 1⟩ (offset + c.utf8Size) rest
      if fraction.denominator = 1 then .error (.invalidCharacter cursor.offset)
      else pure (value, some fraction, cursor)
    else .error (.invalidCharacter offset)

/-- The letters of a unit and what ends it: a digit or a blank, or the end. -/
def unitWord : Nat → List Char → Except Fault (List Char × Cursor)
  | offset, [] => .ok ([], ⟨offset, []⟩)
  | offset, c :: rest =>
    if isUnitLetter c then do
      let (word, cursor) ← unitWord (offset + c.utf8Size) rest
      pure (c :: word, cursor)
    else if isAsciiDigit c || isBlank c then .ok ([], ⟨offset, c :: rest⟩)
    else .error (.invalidCharacter offset)

/-- All the parts. A digit right after a unit begins the next number. `fuel` bounds the number of
parts, of which there are no more than characters. -/
def parts : Nat → Span → Nat → Cursor → Except Fault Span
  | 0, _, _, _ => .error .empty
  | fuel + 1, sum, value, cursor => do
    let (value, fraction, cursor) ← number value cursor.offset cursor.rest
    let (word, cursor) ← unitWord cursor.offset cursor.rest
    let sum ← addPart sum value fraction word
    let start :=
      match cursor.next? with
      | some (c, after) => if isBlank c then after else cursor
      | none => cursor
    match ← firstDigit start.offset start.offset start.rest with
    | none => pure sum
    | some (value, cursor) => parts fuel sum value cursor

def readChars (text : List Char) : Except Fault Span := do
  match ← firstDigit 0 0 text with
  | none => .error .empty
  | some (value, cursor) => parts text.length Span.zero value cursor

/-- Reads a written span. -/
def read (text : String) : Except Fault Span := readChars text.toList

end SecretBroker.Span.Text
