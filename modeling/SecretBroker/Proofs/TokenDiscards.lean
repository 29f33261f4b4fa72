import SecretBroker.Proofs.RejectedTokens

/-!
What becomes of the desk's token when the vault turns listings away. The desk forgets whatever token
it has, also one that is newer than the rejected one, so exchanges are bounded by rejections rather
than by rejected tokens: from any moment on, at most one more of them brings a token than listings
are turned away, while these tokens stay fresh.
-/

namespace SecretBroker.Api

def Event.forgets : Event → Bool
  | .invalidated => true
  | _ => false

namespace TokenCalls

variable {calls after : TokenCalls}

/-- A token is granted only where the one before it was forgotten or has run out. -/
def Spaced (now : Instant) (history : List Event) : Prop :=
  ∀ later next following between first token earlier,
    history = later ++ .granted next following :: (between ++ .granted first token :: earlier) →
      .invalidated ∉ between → token.expiry ≤ now

theorem Spaced.later {now later : Instant} {history : List Event} (spaced : Spaced now history)
    (order : now ≤ later) : Spaced later history := by
  intro recent next following between first token earlier split kept
  exact Nat.le_trans (spaced recent next following between first token earlier split kept) order

theorem Spaced.prefix {now : Instant} {recent older : List Event}
    (spaced : Spaced now (recent ++ older)) : Spaced now recent := by
  intro later next following between first token earlier split kept
  apply spaced later next following between first token (earlier ++ older) _ kept
  simp [split]

theorem Spaced.cons {now : Instant} {history : List Event} {event : Event}
    (spaced : Spaced now history)
    (renewed : ∀ next following, event = .granted next following →
      ∀ between first token earlier, history = between ++ .granted first token :: earlier →
        .invalidated ∉ between → token.expiry ≤ now) : Spaced now (event :: history) := by
  intro later next following between first token earlier split kept
  cases later with
  | nil =>
      obtain ⟨same, older⟩ := List.cons.inj split
      exact renewed next following same between first token earlier older kept
  | cons head rest =>
      exact spaced rest next following between first token earlier (List.cons.inj split).2 kept

theorem Moves.spaced (moves : calls.Moves after) (inTurn : calls.InTurn) (lasting : calls.Lasting)
    (spaced : Spaced calls.now calls.history) : Spaced after.now after.history := by
  cases moves with
  | still | comeLooked | ask => exact spaced
  | elapsed span => exact spaced.later (Nat.le_add_right _ _)
  | @granted caller since token exchanging =>
      -- While a token lasts nobody exchanges, so the exchange that ends here found none.
      have busy := (inTurn.busy caller since exchanging).2
      refine (spaced.cons ?_).cons (by simp)
      intro _ _ _ between first other earlier split kept
      by_contra young
      rw [(lasting between first other earlier split kept (Nat.lt_of_not_le young)).2.1] at busy
      cases busy
  | comeServed | served | began | failed | lookedLeft | queuedLeft | abandoned | invalidated =>
      exact spaced.cons (by simp)

theorem run_spaced (current : Option Token) (now : Instant) (acts : List Act) :
    Spaced (run current now acts).now (run current now acts).history := by
  have both := run_invariant (fun calls => calls.Lasting ∧ Spaced calls.now calls.history) current
    now acts ⟨run_lasting current now [], by intro later; simp [start]⟩ <| by
      rintro calls after inTurn moves ⟨lasting, spaced⟩
      exact ⟨moves.lasting inTurn lasting, moves.spaced inTurn lasting spaced⟩
  exact both.2

/-- Every grant was followed by a forgetting. -/
def Revoked (history : List Event) : Prop :=
  ∀ between first token earlier, history = between ++ .granted first token :: earlier →
    .invalidated ∈ between

theorem Revoked.tail {event : Event} {history : List Event} (revoked : Revoked (event :: history))
    (other : event ≠ .invalidated) : Revoked history := by
  intro between first token earlier split
  have member := revoked (event :: between) first token earlier (by rw [split]; rfl)
  cases member with
  | head => exact absurd rfl other
  | tail _ inside => exact inside

/-- The last grant is the one that has no forgetting of its own. -/
theorem Spaced.bounded {now : Instant} {history : List Event} (spaced : Spaced now history)
    (fresh : ∀ grantee token, .granted grantee token ∈ history → now < token.expiry) :
    history.countP Event.grants ≤ history.countP Event.forgets + 1 ∧
      (Revoked history → history.countP Event.grants ≤ history.countP Event.forgets) := by
  induction history with
  | nil => simp
  | cons event rest ih =>
      have older : Spaced now rest := by
        intro later next following between first token earlier split
        apply spaced (event :: later) next following between first token earlier
        rw [split, List.cons_append]
      obtain ⟨bound, settled⟩ := ih older fun grantee token member =>
        fresh grantee token (List.mem_cons_of_mem _ member)
      cases event with
      | granted caller token =>
          -- What was granted before is fresh as well, and so it must have been forgotten.
          have revoked : Revoked rest := by
            intro between first other earlier split
            by_contra kept
            have stale := spaced [] caller token between first other earlier (by rw [split]; rfl) kept
            exact absurd (fresh first other (by simp [split])) (Nat.not_lt_of_le stale)
          constructor
          · simpa [List.countP_cons, Event.grants, Event.forgets] using settled revoked
          · intro again
            have member := again [] caller token rest rfl
            cases member
      | invalidated =>
          have counted : rest.countP Event.grants ≤ rest.countP Event.forgets + 1 := bound
          constructor
          · simp [List.countP_cons, Event.grants, Event.forgets]
            omega
          · intro _
            simpa [List.countP_cons, Event.grants, Event.forgets] using counted
      | began | failed | abandoned | served | left =>
          constructor
          · simpa [List.countP_cons, Event.grants, Event.forgets] using bound
          · intro revoked
            simpa [List.countP_cons, Event.grants, Event.forgets] using
              settled (revoked.tail (by simp))

/-- What one act adds to the history. -/
theorem step_adds (calls : TokenCalls) (act : Act) :
    ∃ events, (calls.step act).history = events ++ calls.history ∧
      (act ≠ .invalidate → .invalidated ∉ events) := by
  cases act with
  | come =>
      simp only [step, come]
      split
      · exact ⟨[_], rfl, by simp⟩
      · exact ⟨[], rfl, by simp⟩
  | ask caller =>
      simp only [step]
      split <;> exact ⟨[], rfl, by simp⟩
  | look caller =>
      simp only [step, look]
      split
      · split <;> exact ⟨[_], rfl, by simp⟩
      · exact ⟨[], rfl, by simp⟩
  | finish caller answer =>
      simp only [step]
      split
      · cases brought : calls.desk.brought? answer with
        | some token =>
            rw [finish_brought brought]
            exact ⟨[_, _], rfl, by simp⟩
        | none =>
            rw [finish_barren brought]
            exact ⟨[_], rfl, by simp⟩
      · exact ⟨[], rfl, by simp⟩
  | giveUp caller =>
      simp only [step, giveUp]
      split
      · split <;> exact ⟨[_], rfl, by simp⟩
      · exact ⟨[], rfl, by simp⟩
  | invalidate => exact ⟨[_], rfl, by simp⟩
  | elapse span => exact ⟨[], rfl, by simp⟩

end TokenCalls

/-! The same of the records of a run of lookups. -/

def Occurrence.event? : Occurrence → Option Event
  | .desk event => some event
  | _ => none

/-- The vault turned the listing's token away. -/
def Occurrence.rejects : Occurrence → Bool
  | .listed _ _ delivery => rejectsToken delivery
  | _ => false

def Occurrence.grants (occurrence : Occurrence) : Bool := occurrence.event?.any Event.grants

def Occurrence.forgets (occurrence : Occurrence) : Bool := occurrence.event?.any Event.forgets

def deskEvents (history : List Dated) : List Event := history.filterMap (·.occurrence.event?)

theorem deskEvents_append (recent older : List Dated) :
    deskEvents (recent ++ older) = deskEvents recent ++ deskEvents older :=
  List.filterMap_append

theorem deskEvents_count (kind : Event → Bool) (history : List Dated) :
    (deskEvents history).countP kind =
      history.countP fun dated => dated.occurrence.event?.any kind := by
  induction history with
  | nil => rfl
  | cons dated rest ih =>
      cases event : dated.occurrence.event? <;> simp_all [deskEvents, List.countP_cons]

/-- Whenever the desk forgot its token, a listing was turned away right then. -/
def Prompted (history : List Dated) : Prop :=
  ∀ recent older, history = recent ++ older →
    recent.countP (·.occurrence.forgets) ≤ recent.countP (·.occurrence.rejects)

theorem Prompted.append {recent older : List Dated} (later : Prompted recent)
    (earlier : Prompted older) : Prompted (recent ++ older) := by
  intro first rest split
  rcases List.append_eq_append_iff.mp split.symm with ⟨between, whole, -⟩ | ⟨between, whole, below⟩
  · exact later first between whole
  · have here := later recent [] (List.append_nil _).symm
    have there := earlier between rest below
    rw [whole, List.countP_append, List.countP_append]
    exact Nat.add_le_add here there

theorem Prompted.of_quiet {history : List Dated}
    (quiet : ∀ dated ∈ history, dated.occurrence.forgets = false) : Prompted history := by
  intro recent older split
  have silent : recent.countP (·.occurrence.forgets) = 0 := by
    apply List.countP_eq_zero.mpr
    intro dated member
    simp [quiet dated (by simp [split, member])]
  rw [silent]
  exact Nat.zero_le _

theorem Prompted.of_rejection (moment forgotten : Instant) (lister : Nat) (token : Secret)
    {delivery : Delivery} (rejected : rejectsToken delivery = true) :
    Prompted [⟨moment, .listed lister token delivery⟩, ⟨forgotten, .desk .invalidated⟩] := by
  intro recent older split
  match recent, split with
  | [], _ => simp
  | [_], split =>
      obtain ⟨rfl, _⟩ := List.cons.inj split
      simp [Occurrence.forgets, Occurrence.event?]
  | _ :: _ :: rest, split =>
      obtain ⟨rfl, tail⟩ := List.cons.inj split
      obtain ⟨rfl, last⟩ := List.cons.inj tail
      obtain ⟨rfl, _⟩ := List.append_eq_nil_iff.mp last.symm
      simp [List.countP_cons, Occurrence.forgets, Occurrence.event?, Event.forgets,
        Occurrence.rejects, rejected]

theorem Prompted.kept {later before : List Dated} (prompted : Prompted (later ++ before))
    (accepted : ∀ dated ∈ later, dated.occurrence.rejects = false) :
    .invalidated ∉ deskEvents later := by
  intro member
  obtain ⟨dated, recorded, event⟩ := List.mem_filterMap.mp member
  have bound := prompted later before rfl
  have turned : later.countP (·.occurrence.rejects) = 0 := by
    apply List.countP_eq_zero.mpr
    intro other inside
    simp [accepted other inside]
  have forgot : 0 < later.countP (·.occurrence.forgets) := by
    apply List.countP_pos_iff.mpr
    exact ⟨dated, recorded, by simp [Occurrence.forgets, event, Event.forgets]⟩
  omega

namespace Listings

variable {run : Listings}

theorem observe_calls (run : Listings) (event : Event) : (run.observe event).calls = run.calls := by
  cases event <;> rfl

theorem observe_history (run : Listings) (event : Event) :
    (run.observe event).history = ⟨run.calls.now, .desk event⟩ :: run.history := by
  cases event <;> rfl

theorem follow_adds {after : TokenCalls} {events : List Event}
    (grown : after.history = events ++ run.calls.history) :
    (run.follow after).calls = after ∧
      (run.follow after).history =
        events.map (fun event => ⟨after.now, .desk event⟩) ++ run.history := by
  have added : run.calls.added after = events := by
    simp [TokenCalls.added, grown]
  rw [follow, added]
  clear grown added
  induction events with
  | nil => exact ⟨rfl, rfl⟩
  | cons event rest ih =>
      obtain ⟨sameCalls, sameHistory⟩ := ih
      rw [List.foldr_cons, observe_calls, observe_history, sameCalls, sameHistory]
      exact ⟨rfl, rfl⟩

theorem move_calls (run : Listings) (act : TokenCalls.Act) :
    (run.move act).calls = run.calls.step act := by
  obtain ⟨events, grown, -⟩ := TokenCalls.step_adds run.calls act
  exact (follow_adds grown).1

/-- What lookups do at the desk is a run of its callers. -/
theorem run_calls (baseUrl : String) (now : Instant) (acts : List Act) :
    ∃ moves, (Listings.run baseUrl now acts).calls = TokenCalls.run none now moves := by
  have initially : ∃ moves, (start baseUrl now).calls = TokenCalls.run none now moves := ⟨[], rfl⟩
  refine List.foldlRecOn (motive := fun run => ∃ moves, run.calls = TokenCalls.run none now moves)
    acts step initially ?_
  rintro run ⟨moves, reached⟩ act _
  have further (move : TokenCalls.Act) :
      ∃ moves, run.calls.step move = TokenCalls.run none now moves :=
    ⟨moves ++ [move], by rw [TokenCalls.run, List.foldl_append, reached]; rfl⟩
  cases act with
  | fetch name =>
      simp only [step]
      split
      · exact ⟨moves, reached⟩
      · rw [move_calls]
        exact further .come
  | ask caller => exact move_calls run (.ask caller) ▸ further _
  | look caller => exact move_calls run (.look caller) ▸ further _
  | identify caller answer =>
      simp only [step]
      split
      · rw [move_calls]
        exact further (.finish caller answer)
      · exact ⟨moves, reached⟩
  | send caller =>
      simp only [step]
      split
      · split <;> exact ⟨moves, reached⟩
      · exact ⟨moves, reached⟩
  | list caller delivery =>
      simp only [step]
      split
      · by_cases rejects : rejectsToken delivery = true
        · simp only [rejects, if_true]
          exact move_calls run .invalidate ▸ further .invalidate
        · simp only [rejects]
          exact ⟨moves, reached⟩
      · exact ⟨moves, reached⟩
  | giveUp caller => exact move_calls run (.giveUp caller) ▸ further (.giveUp caller)
  | invalidate => exact move_calls run .invalidate ▸ further .invalidate
  | elapse span => exact move_calls run (.elapse span) ▸ further _

/-- What is recorded between two states of a run, and of that what its desk did. -/
structure Grows (run after : Listings) (block : List Dated) : Prop where
  history : after.history = block ++ run.history
  desk : after.calls.history = deskEvents block ++ run.calls.history

theorem Grows.trans {middle after : Listings} {recent older : List Dated}
    (first : Grows run middle older) (next : Grows middle after recent) :
    Grows run after (recent ++ older) where
  history := by rw [next.history, first.history, List.append_assoc]
  desk := by rw [next.desk, first.desk, deskEvents_append, List.append_assoc]

theorem Grows.still (run : Listings) : Grows run run [] := ⟨rfl, rfl⟩

/-- A record of something that happened elsewhere. -/
theorem Grows.note (run : Listings) (occurrence : Occurrence) (away : occurrence.event? = none) :
    Grows run (run.note occurrence) [⟨run.calls.now, occurrence⟩] where
  history := rfl
  desk := by simp [deskEvents, away, Listings.note]

theorem Grows.use {after : Listings} {block : List Dated} (grows : Grows run after block)
    (caller : Nat) (use : Option TokenUse) : Grows run (after.use caller use) block :=
  ⟨grows.history, grows.desk⟩

theorem Grows.forget (run : Listings) :
    Grows run (run.move .invalidate) [⟨run.calls.now, .desk .invalidated⟩] where
  history := by
    have grown : (run.calls.step .invalidate).history = [.invalidated] ++ run.calls.history := rfl
    exact (follow_adds grown).2
  desk := by rw [move_calls]; rfl

theorem move_grows (run : Listings) (act : TokenCalls.Act) :
    ∃ block, Grows run (run.move act) block ∧
      (act ≠ .invalidate → ∀ dated ∈ block, dated.occurrence.forgets = false) := by
  obtain ⟨events, grown, plain⟩ := TokenCalls.step_adds run.calls act
  obtain ⟨calls, recorded⟩ := follow_adds grown
  refine ⟨_, ⟨recorded, ?_⟩, ?_⟩
  · have back (moment : Instant) :
        deskEvents (events.map fun event => ⟨moment, .desk event⟩) = events := by
      simp [deskEvents, List.filterMap_map, Occurrence.event?]
    rw [back]
    exact (congrArg TokenCalls.history calls).trans grown
  · intro other dated member
    obtain ⟨event, inside, rfl⟩ := List.mem_map.mp member
    cases event with
    | invalidated => exact absurd inside (plain other)
    | began | granted | failed | abandoned | served | left => rfl

theorem step_grows (run : Listings) (act : Act) :
    ∃ block, Grows run (run.step act) block ∧ (act ≠ .invalidate → Prompted block) := by
  -- Only the answer to a listing and the act that is left out have the desk forget its token.
  have moving (move : TokenCalls.Act) (other : move ≠ .invalidate) :
      ∃ block, Grows run (run.move move) block ∧ (act ≠ .invalidate → Prompted block) := by
    obtain ⟨block, grows, quiet⟩ := move_grows run move
    exact ⟨block, grows, fun _ => .of_quiet (quiet other)⟩
  have noting {occurrence : Occurrence} (away : occurrence.event? = none)
      (move : TokenCalls.Act) (other : move ≠ .invalidate) :
      ∃ block, Grows run ((run.note occurrence).move move) block ∧
        (act ≠ .invalidate → Prompted block) := by
    obtain ⟨block, grows, quiet⟩ := move_grows (run.note occurrence) move
    refine ⟨_, (Grows.note run _ away).trans grows, fun _ => ?_⟩
    apply Prompted.append (.of_quiet (quiet other))
    apply Prompted.of_quiet
    simp [Occurrence.forgets, away]
  have still : ∃ block, Grows run run block ∧ (act ≠ .invalidate → Prompted block) :=
    ⟨[], .still run, fun _ => .of_quiet (by simp)⟩
  cases act with
  | fetch name =>
      simp only [step]
      split
      · exact still
      · exact noting rfl .come (by simp)
  | ask caller => exact moving (.ask caller) (by simp)
  | look caller => exact moving (.look caller) (by simp)
  | identify caller answer =>
      simp only [step]
      split
      · exact noting rfl (.finish caller answer) (by simp)
      · exact still
  | send caller =>
      simp only [step]
      split
      · split
        · exact ⟨_, (Grows.note run _ rfl).use _ _,
            fun _ => .of_quiet (by simp [Occurrence.forgets, Occurrence.event?])⟩
        · exact ⟨[], (Grows.still run).use _ _, fun _ => .of_quiet (by simp)⟩
      · exact still
  | list caller delivery =>
      simp only [step]
      split
      · rename_i token lists
        by_cases rejects : rejectsToken delivery = true
        · rw [if_pos rejects]
          have grows := (Grows.forget run).trans
            ((Grows.note _ (.listed caller token delivery) rfl).use caller none)
          exact ⟨_, grows, fun _ => .of_rejection _ _ caller token rejects⟩
        · rw [if_neg rejects]
          exact ⟨_, (Grows.note run _ rfl).use _ _,
            fun _ => .of_quiet (by simp [Occurrence.forgets, Occurrence.event?])⟩
      · exact still
  | giveUp caller =>
      obtain ⟨block, grows, prompted⟩ := moving (.giveUp caller) (by simp)
      exact ⟨block, grows.use _ _, prompted⟩
  | invalidate =>
      obtain ⟨block, grows, -⟩ := move_grows run .invalidate
      exact ⟨block, grows, fun other => absurd rfl other⟩
  | elapse span => exact moving (.elapse span) (by simp)

theorem run_desk (baseUrl : String) (now : Instant) (acts : List Act) :
    deskEvents (Listings.run baseUrl now acts).history =
      (Listings.run baseUrl now acts).calls.history := by
  have initially : deskEvents (start baseUrl now).history = (start baseUrl now).calls.history := rfl
  refine List.foldlRecOn (motive := fun run => deskEvents run.history = run.calls.history) acts step
    initially ?_
  intro run same act _
  obtain ⟨block, grows, -⟩ := step_grows run act
  rw [grows.history, grows.desk, deskEvents_append, same]

theorem run_prompted (baseUrl : String) (now : Instant) (acts : List Act)
    (inside : ∀ act ∈ acts, act ≠ .invalidate) :
    Prompted (Listings.run baseUrl now acts).history := by
  have initially : Prompted (start baseUrl now).history := .of_quiet fun _ member => by cases member
  refine List.foldlRecOn (motive := fun run => Prompted run.history) acts step initially ?_
  intro run prompted act member
  obtain ⟨block, grows, kept⟩ := step_grows run act
  rw [grows.history]
  exact (kept (inside act member)).append prompted

/-- Where the desk forgets its token only for lookups: a listing that the vault turns away has it
forget whatever token it has, and changes nothing else there, and any other answer to a listing
changes nothing. So a token stays while it is fresh and no listing is turned away; and, from any
moment on, the exchanges that bring tokens which stay fresh are at most one more than the listings
that are turned away. -/
theorem rejections_bound_exchanges (baseUrl : String) (now : Instant) (acts : List Act)
    (inside : ∀ act ∈ acts, act ≠ .invalidate) :
    let reached := Listings.run baseUrl now acts
    (∀ lister token delivery, reached.uses lister = some (.listing token) →
      (reached.step (.list lister delivery)).calls =
        if rejectsToken delivery then
          { reached.calls with
            desk := { reached.calls.desk with current := none }
            history := .invalidated :: reached.calls.history }
        else reached.calls) ∧
    (∀ later moment caller token before,
      reached.history = later ++ ⟨moment, .desk (.granted caller token)⟩ :: before →
        (∀ dated ∈ later, dated.occurrence.rejects = false) → reached.calls.now < token.expiry →
          reached.calls.desk.current = some token) ∧
    ∀ later before, reached.history = later ++ before →
      (∀ dated ∈ later, ∀ caller token, dated.occurrence = .desk (.granted caller token) →
        reached.calls.now < token.expiry) →
          later.countP (·.occurrence.grants) ≤ later.countP (·.occurrence.rejects) + 1 := by
  intro reached
  obtain ⟨moves, calls⟩ := run_calls baseUrl now acts
  have prompted : Prompted reached.history := run_prompted baseUrl now acts inside
  have desk : deskEvents reached.history = reached.calls.history := run_desk baseUrl now acts
  refine ⟨?_, ?_, ?_⟩
  · intro lister token delivery lists
    simp only [step, lists]
    by_cases rejects : rejectsToken delivery = true
    · simp only [rejects, if_true]
      exact move_calls reached .invalidate
    · simp only [rejects]
      rfl
  · intro later moment caller token before split accepted young
    rw [split] at prompted
    have lasting : reached.calls.Lasting := by
      rw [show reached.calls = _ from calls]
      exact TokenCalls.run_lasting none now moves
    apply (lasting (deskEvents later) caller token (deskEvents before) _ (prompted.kept accepted)
      young).1
    rw [← desk, split, deskEvents_append]
    rfl
  · intro later before split fresh
    have spaced : TokenCalls.Spaced reached.calls.now (deskEvents later ++ deskEvents before) := by
      rw [← deskEvents_append, ← split, desk, show reached.calls = _ from calls]
      exact TokenCalls.run_spaced none now moves
    have bounded := spaced.prefix.bounded <| by
      intro grantee token member
      obtain ⟨dated, recorded, event⟩ := List.mem_filterMap.mp member
      apply fresh dated recorded grantee token
      cases same : dated.occurrence <;> simp_all [Occurrence.event?]
    rw [deskEvents_count, deskEvents_count] at bounded
    exact Nat.le_trans bounded.1 (Nat.add_le_add_right (prompted later before split) 1)

/-- Two listings are under way with one token when the vault turns the first away; a third lookup
gets a new token before the other is turned away as well. -/
def burst : List Act :=
  [.fetch "A", .ask 0, .look 0, .identify 0 (.ok ⟨⟨"old"⟩, .ofSeconds 3600⟩), .send 0,
    .fetch "A", .send 1, .list 0 (.answer 401 none),
    .fetch "A", .ask 2, .look 2, .identify 2 (.ok ⟨⟨"new"⟩, .ofSeconds 3600⟩),
    .list 1 (.answer 401 none),
    .fetch "A", .ask 3, .look 3, .identify 3 (.ok ⟨⟨"newer"⟩, .ofSeconds 3600⟩)]

/-- The second rejection, too, is one of the old token, and yet the desk forgets the new one, which
is fresh and was never turned away. So two exchanges bring tokens after the first rejection. -/
theorem newer_token_forgotten :
    let before := Listings.run "https://vault" 0 (burst.take 12)
    let after := Listings.run "https://vault" 0 (burst.take 13)
    let history := (Listings.run "https://vault" 0 burst).history
    before.uses 1 = some (.listing ⟨"old"⟩) ∧
      before.calls.desk.current = some ⟨⟨"new"⟩, 3300000000000⟩ ∧
      after = before.step (.list 1 (.answer 401 none)) ∧ after.calls.desk.current = none ∧
      (∀ dated ∈ history, dated.occurrence.rejects = true →
        dated.occurrence = .listed 0 ⟨"old"⟩ (.answer 401 none) ∨
          dated.occurrence = .listed 1 ⟨"old"⟩ (.answer 401 none)) ∧
      (history.takeWhile (·.occurrence ≠ .listed 0 ⟨"old"⟩ (.answer 401 none))).countP
        (·.occurrence.grants) = 2 := by
  refine ⟨?_, ?_, rfl, ?_, ?_, ?_⟩ <;> decide +kernel

/-- What is recorded after the first of the two rejections. -/
def aftermath : List Dated :=
  [⟨0, .desk (.served 3 ⟨"newer"⟩)⟩, ⟨0, .desk (.granted 3 ⟨⟨"newer"⟩, 3300000000000⟩)⟩,
    ⟨0, .identified 3 (.ok ⟨⟨"newer"⟩, .ofSeconds 3600⟩)⟩, ⟨0, .desk (.began 3)⟩, ⟨0, .came 3⟩,
    ⟨0, .listed 1 ⟨"old"⟩ (.answer 401 none)⟩, ⟨0, .desk .invalidated⟩,
    ⟨0, .desk (.served 2 ⟨"new"⟩)⟩, ⟨0, .desk (.granted 2 ⟨⟨"new"⟩, 3300000000000⟩)⟩,
    ⟨0, .identified 2 (.ok ⟨⟨"new"⟩, .ofSeconds 3600⟩)⟩, ⟨0, .desk (.began 2)⟩, ⟨0, .came 2⟩]

/-- The bound is reached: one more rejection, two exchanges that bring tokens. -/
theorem second_rejection_costs_exchange :
    (∀ act ∈ burst, act ≠ .invalidate) ∧
      (∀ dated ∈ aftermath, ∀ caller token, dated.occurrence = .desk (.granted caller token) →
        0 < token.expiry) ∧
      (Listings.run "https://vault" 0 burst).history =
        aftermath ++ (Listings.run "https://vault" 0 (burst.take 8)).history ∧
      aftermath.countP (·.occurrence.grants) = 2 ∧ aftermath.countP (·.occurrence.rejects) = 1 ∧
      aftermath.countP (·.occurrence.grants) ≤ aftermath.countP (·.occurrence.rejects) + 1 := by
  have inside : ∀ act ∈ burst, act ≠ .invalidate := by simp [burst]
  have fresh : ∀ dated ∈ aftermath, ∀ caller token,
      dated.occurrence = .desk (.granted caller token) → 0 < token.expiry := by
    rintro dated member caller token same
    simp only [aftermath, List.mem_cons, List.not_mem_nil, or_false] at member
    rcases member with rfl | rfl | rfl | rfl | rfl | rfl | rfl | rfl | rfl | rfl | rfl | rfl <;>
      cases same <;> decide
  have whole : (Listings.run "https://vault" 0 burst).history =
      aftermath ++ (Listings.run "https://vault" 0 (burst.take 8)).history := by decide +kernel
  have still : (Listings.run "https://vault" 0 burst).calls.now = 0 := by decide +kernel
  obtain ⟨_, _, bounded⟩ := rejections_bound_exchanges "https://vault" 0 burst inside
  refine ⟨inside, fresh, whole, rfl, rfl, bounded _ _ whole ?_⟩
  rw [still]
  exact fresh

end Listings
end SecretBroker.Api
