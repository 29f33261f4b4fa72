import SecretBroker.Api.Call
import SecretBroker.Rehearsal.Vault
import SecretBroker.Text.Blank
import SecretBroker.Text.Fold
import SecretBroker.Text.Utf8

/-!
A scripted web service. It notes every request, and answers those for a path in turn from the
answers of that path. The caller follows redirections, within limits.
-/

namespace SecretBroker.Rehearsal

open SecretBroker.Api

/-- How an answer is given. -/
inductive Manner where
  | whole
  /-- The connection ends without an answer. -/
  | dropped
  /-- The body ends too early. -/
  | truncated
  /-- Nothing ever comes. -/
  | hanging
  deriving DecidableEq, Repr

structure PeerAnswer where
  status : Nat
  body : List UInt8
  location : Option String
  manner : Manner
  deriving Repr

structure Peer where
  /-- Why no call gets through, if none does. -/
  fault : Option CallFault
  routes : List (String × List PeerAnswer)
  /-- The requests, the latest first; their addresses are paths. -/
  requests : List Call
  deriving Repr

namespace Peer

def notFound : PeerAnswer := ⟨404, [], none, .whole⟩

/-- An address apart: scheme and authority, and the path. -/
def splitUrl (url : String) : String × String :=
  let rec past : List Char → List Char → List Char × List Char
    | before, ':' :: '/' :: '/' :: rest =>
      (before.reverse ++ "://".toList ++ rest.takeWhile (· ≠ '/'), rest.dropWhile (· ≠ '/'))
    | before, c :: rest => past (c :: before) rest
    | before, [] => (before.reverse, [])
  let (origin, path) := past [] url.toList
  (String.ofList origin, if path.isEmpty then "/" else String.ofList path)

def trimBlanks (text : String) : String :=
  let isGap (c : Char) : Bool := c = ' ' || c = '\t'
  String.ofList (((text.toList.dropWhile isGap).reverse.dropWhile isGap).reverse)

/-- Notes a request and takes the next answer for its path. -/
def serve (peer : Peer) (call : Call) : Peer × PeerAnswer :=
  let path := (splitUrl call.url).2
  let noted := { call with
    url := path
    headers := call.headers.map fun (name, value) => (name, trimBlanks value) }
  let peer := { peer with requests := noted :: peer.requests }
  match (peer.routes.lookup path).bind takeTurn with
  | none => (peer, notFound)
  | some (answer, rest) =>
    ({ peer with routes := peer.routes.map fun entry =>
        if entry.1 = path then (path, rest) else entry }, answer)

/-- Steps that go up or stay where they are taken out of a path. -/
def settleDots (parts : List String) : List String :=
  (parts.foldl (fun done part =>
    if part = "." then done else if part = ".." then done.tail else part :: done) []).reverse

/-- Where a location leads, seen from an address. -/
def follow (url location : String) : String :=
  let (origin, path) := splitUrl url
  let target := String.ofList (location.toList.takeWhile (· ≠ '#'))
  if Text.contains "://" target then target
  else if target.toList.take 2 = ['/', '/'] then
    String.ofList (origin.toList.takeWhile (· ≠ '/')) ++ target
  else if target.toList.head? = some '/' then origin ++ target
  else
    let parts := (Text.split '/' path).dropLast ++ Text.split '/' target
    origin ++ "/".intercalate (settleDots parts)

/-- Headers that describe a body. -/
def payloadHeaders : List String := ["content-type"]

def withoutPayload (call : Call) : Call :=
  { call with method := "GET", body := "", headers := call.headers.filter (!payloadHeaders.contains ·.1) }

/-- Credentials are not sent on to another origin. -/
def withoutCredentials (call : Call) : Call :=
  { call with headers := call.headers.filter (·.1 ≠ "authorization") }

/-- The call that follows an answer, if the answer sends the caller elsewhere. -/
def redirected? (call : Call) (answer : PeerAnswer) : Option Call := do
  let url := follow call.url (← answer.location)
  let changed ←
    if answer.status = 301 || answer.status = 302 then
      some (if call.method = "POST" then withoutPayload call else call)
    else if answer.status = 303 then some (withoutPayload call)
    else if answer.status = 307 || answer.status = 308 then some call
    else none
  let kept := if (splitUrl url).1 = (splitUrl call.url).1 then changed else withoutCredentials changed
  return { kept with url }

def redirectionLimit : Nat := 10

/-- Makes a call and follows redirections; `none` if the answer never comes. -/
def send : Nat → Peer → Call → Peer × Option Delivery
  | left, peer, call =>
    let (peer, answer) := peer.serve call
    match answer.manner with
    | .dropped => (peer, some (.none .failed))
    | .hanging => (peer, none)
    | .truncated | .whole =>
      match redirected? call answer, left with
      | some _, 0 => (peer, some (.none .failed))
      | some next, left + 1 => send left peer next
      | none, _ =>
        (peer, some (.answer answer.status
          (if answer.manner = .truncated then none else some answer.body)))

/-- What the caller gets within its time, and when. -/
def deliver (peer : Peer) (call : Call) (timeout : Span) (now : Instant) :
    Peer × Delivery × Instant :=
  match peer.fault with
  | some fault => (peer, .none fault, now)
  | none =>
    match peer.send redirectionLimit call with
    | (peer, some delivery) => (peer, delivery, now)
    | (peer, none) => (peer, .none .timedOut, Instant.wake (now + timeout.total))

end Peer
end SecretBroker.Rehearsal
