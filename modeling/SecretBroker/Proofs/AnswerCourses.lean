import SecretBroker.Api.Call

/-!
How the answer to a call arrives. Its head and the parts of its body come one after another, each at
its time or never, and the connection may break in between. A client has a limited time for all of
it. If the head comes in time it has an answer, and then a body or none.
-/

namespace SecretBroker.Api

/-- How a body arrives; each thing happens some nanoseconds after the one before. -/
inductive BodyCourse where
  | part (after : Nat) (bytes : List UInt8) (rest : BodyCourse)
  | ended (after : Nat)
  /-- The connection breaks. -/
  | cut (after : Nat)
  /-- Nothing comes any more. -/
  | stalled
  deriving Repr

namespace BodyCourse

def bytes : BodyCourse → List UInt8
  | .part _ bytes rest => bytes ++ rest.bytes
  | .ended _ | .cut _ | .stalled => []

/-- How long the whole body takes, if it comes to its end. -/
def length? : BodyCourse → Option Nat
  | .part after _ rest => rest.length?.map (after + ·)
  | .ended after => some after
  | .cut _ | .stalled => none

/-- What a client reads that has some time left. -/
def received (left : Nat) : BodyCourse → Option (List UInt8)
  | .part after bytes rest =>
    if after < left then (rest.received (left - after)).map (bytes ++ ·) else none
  | .ended after => if after < left then some [] else none
  | .cut _ | .stalled => none

theorem received_eq (course : BodyCourse) (left : Nat) :
    course.received left =
      if ∃ length, course.length? = some length ∧ length < left then some course.bytes
      else none := by
  induction course generalizing left with
  | part after bytes rest ih =>
      rw [received, ih]
      by_cases begun : after < left
      · rw [if_pos begun]
        by_cases inTime : ∃ length, rest.length? = some length ∧ length < left - after
        · have whole : ∃ length, (part after bytes rest).length? = some length ∧ length < left := by
            obtain ⟨length, ends, short⟩ := inTime
            exact ⟨after + length, by rw [length?, ends, Option.map_some], by omega⟩
          rw [if_pos inTime, if_pos whole]
          rfl
        · have late :
              ¬ ∃ length, (part after bytes rest).length? = some length ∧ length < left := by
            rintro ⟨length, ends, short⟩
            obtain ⟨tail, restEnds, rfl⟩ := Option.map_eq_some_iff.mp ends
            exact inTime ⟨tail, restEnds, by omega⟩
          rw [if_neg inTime, if_neg late]
          rfl
      · have late : ¬ ∃ length, (part after bytes rest).length? = some length ∧ length < left := by
          rintro ⟨length, ends, short⟩
          obtain ⟨tail, _, rfl⟩ := Option.map_eq_some_iff.mp ends
          omega
        rw [if_neg begun, if_neg late]
  | ended after => simp [received, length?, bytes]
  | cut after => simp [received, length?]
  | stalled => simp [received, length?]

end BodyCourse

/-- What a service does with a call. -/
inductive Conduct where
  /-- No connection is made. -/
  | unreachable (after : Nat)
  /-- The connection breaks before an answer begins. -/
  | dropped (after : Nat)
  | silent
  /-- The head of an answer comes, and then its body. -/
  | answered (after : Nat) (status : Nat) (body : BodyCourse)
  deriving Repr

namespace Conduct

def bytes : Conduct → List UInt8
  | .answered _ _ body => body.bytes
  | .unreachable _ | .dropped _ | .silent => []

/-- The status of the answer, if its head comes in time. -/
def begun? (timeout : Nat) : Conduct → Option Nat
  | .answered after status _ => if after < timeout then some status else none
  | .unreachable _ | .dropped _ | .silent => none

/-- The whole answer comes in time. -/
def Completes (timeout : Nat) : Conduct → Prop
  | .answered after _ body => ∃ length, body.length? = some length ∧ after + length < timeout
  | .unreachable _ | .dropped _ | .silent => False

/-- The client has all that it reads: the whole answer, or a status that settles the matter. -/
def Concludes (timeout : Nat) (conduct : Conduct) : Prop :=
  conduct.Completes timeout ∨ ∃ status, conduct.begun? timeout = some status ∧ status ≠ 200

theorem begun_of_completes {timeout : Nat} {conduct : Conduct}
    (whole : conduct.Completes timeout) : ∃ status, conduct.begun? timeout = some status := by
  cases conduct with
  | answered after status body =>
      obtain ⟨length, _, short⟩ := whole
      exact ⟨status, if_pos (by omega)⟩
  | unreachable after => cases whole
  | dropped after => cases whole
  | silent => cases whole

/-- A call that did not conclude has no answer or a 200 answer without its whole body. -/
theorem not_concludes_iff {timeout : Nat} {conduct : Conduct} :
    ¬ conduct.Concludes timeout ↔ conduct.begun? timeout = none ∨
      conduct.begun? timeout = some 200 ∧ ¬ conduct.Completes timeout := by
  constructor
  · intro waiting
    cases begun : conduct.begun? timeout with
    | none => exact Or.inl rfl
    | some status =>
        by_cases accepted : status = 200
        · subst accepted
          exact Or.inr ⟨rfl, fun whole => waiting (Or.inl whole)⟩
        · exact absurd (Or.inr ⟨status, begun, accepted⟩) waiting
  · rintro (unbegun | ⟨begun, cut⟩) (whole | ⟨status, head, other⟩)
    · obtain ⟨status, head⟩ := begun_of_completes whole
      cases unbegun.symm.trans head
    · cases unbegun.symm.trans head
    · exact cut whole
    · cases begun.symm.trans head
      exact other rfl

/-- What a client gets that has a limited time for a call, from its first step to the last byte of
the body. -/
def delivery (timeout : Nat) : Conduct → Delivery
  | .unreachable after => .none (if after < timeout then .unreachable else .timedOut)
  | .dropped after => .none (if after < timeout then .failed else .timedOut)
  | .silent => .none .timedOut
  | .answered after status body =>
    if after < timeout then .answer status (body.received (timeout - after)) else .none .timedOut

/-- There is no answer, or one with all of its body, or one without. -/
theorem delivery_cases (timeout : Nat) (conduct : Conduct) :
    (conduct.begun? timeout = none ∧ ¬ conduct.Completes timeout ∧
      ∃ fault, conduct.delivery timeout = .none fault) ∨
    ∃ status, conduct.begun? timeout = some status ∧
      ((conduct.Completes timeout ∧
          conduct.delivery timeout = .answer status (some conduct.bytes)) ∨
        (¬ conduct.Completes timeout ∧ conduct.delivery timeout = .answer status none)) := by
  cases conduct with
  | unreachable after => exact Or.inl ⟨rfl, id, _, rfl⟩
  | dropped after => exact Or.inl ⟨rfl, id, _, rfl⟩
  | silent => exact Or.inl ⟨rfl, id, _, rfl⟩
  | answered after status body =>
      by_cases begun : after < timeout
      · refine Or.inr ⟨status, if_pos begun, ?_⟩
        rw [delivery, if_pos begun, body.received_eq]
        by_cases inTime : ∃ length, body.length? = some length ∧ length < timeout - after
        · obtain ⟨length, ends, short⟩ := inTime
          rw [if_pos ⟨length, ends, short⟩]
          exact Or.inl ⟨⟨length, ends, by omega⟩, rfl⟩
        · rw [if_neg inTime]
          refine Or.inr ⟨?_, rfl⟩
          rintro ⟨length, ends, short⟩
          exact inTime ⟨length, ends, by omega⟩
      · refine Or.inl ⟨if_neg begun, ?_, .timedOut, if_neg begun⟩
        rintro ⟨length, _, short⟩
        omega

end Conduct
end SecretBroker.Api
