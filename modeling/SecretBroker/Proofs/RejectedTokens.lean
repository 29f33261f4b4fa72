import SecretBroker.Proofs.SingleFlight
import SecretBroker.Proofs.TokenListings

/-!
Where the tokens of lookups come from. A caller is served with the token of its own exchange, or
with one that is fresh and that the identity service issued since the desk last forgot its token. So
a token that the vault has turned away is never served again, provided that it is not issued again.
-/

namespace SecretBroker.Api

variable {history recent older earlier before : List Dated} {caller : Nat}

/-! What a new record changes in the parts of a history. -/

/-- What happened since a caller came. -/
def sinceComing (caller : Nat) (history : List Dated) : List Dated :=
  history.takeWhile fun dated => dated.occurrence ≠ .came caller

theorem sinceComing_cons {dated : Dated} (other : dated.occurrence ≠ .came caller)
    (history : List Dated) :
    sinceComing caller (dated :: history) = dated :: sinceComing caller history := by
  simp [sinceComing, other]

theorem sinceComing_recent (moment : Instant) (recent older : List Dated) :
    (sinceComing caller (recent ++ ⟨moment, .came caller⟩ :: older)).Sublist recent := by
  induction recent with
  | nil => simp [sinceComing]
  | cons dated rest ih =>
      by_cases same : dated.occurrence = .came caller
      · simp [sinceComing, same]
      · rw [List.cons_append, sinceComing_cons same]
        exact ih.cons_cons dated

/-- A caller was served with a token since it came. -/
def ServedSince (history : List Dated) (caller : Nat) (token : Secret) : Prop :=
  ∃ moment, ⟨moment, .desk (.served caller token)⟩ ∈ sinceComing caller history

theorem ServedSince.cons {token : Secret} {dated : Dated}
    (served : ServedSince history caller token) (other : dated.occurrence ≠ .came caller) :
    ServedSince (dated :: history) caller token := by
  obtain ⟨moment, member⟩ := served
  have grown := sinceComing_cons other history
  exact ⟨moment, by rw [grown]; exact List.mem_cons_of_mem _ member⟩

theorem ServedSince.last (moment : Instant) (history : List Dated) (caller : Nat) (token : Secret) :
    ServedSince (⟨moment, .desk (.served caller token)⟩ :: history) caller token :=
  ⟨moment, by simp [sinceComing]⟩

theorem ServedSince.served {token : Secret} (served : ServedSince history caller token) :
    ∃ moment, ⟨moment, .desk (.served caller token)⟩ ∈ history := by
  obtain ⟨moment, member⟩ := served
  exact ⟨moment, (List.takeWhile_sublist _).subset member⟩

theorem exchangeStart_cons {dated : Dated} (other : dated.occurrence.begins caller = false)
    (history : List Dated) :
    exchangeStart? (dated :: history) caller = exchangeStart? history caller := by
  simp [exchangeStart?, other]

theorem issued_append (recent older : List Dated) :
    issued (recent ++ older) = issued recent ++ issued older :=
  List.filterMap_append

theorem issued_here (recent older : List Dated) (moment : Instant) (caller : Nat) (grant : Grant) :
    grant.token ∈ issued (recent ++ ⟨moment, .identified caller (.ok grant)⟩ :: older) := by
  rw [issued_append]
  exact List.mem_append_right _ List.mem_cons_self

/-- A token that was issued since the desk last forgot its token. Its time counts from the beginning
of the exchange. -/
def Stocked (history : List Dated) (token : Token) : Prop :=
  ∃ recent answered exchanger grant earlier since,
    history = recent ++ ⟨answered, .identified exchanger (.ok grant)⟩ :: earlier ∧
    (∀ dated ∈ recent, dated.occurrence ≠ .desk .invalidated) ∧
    exchangeStart? earlier exchanger = some since ∧ token.secret = grant.token ∧
    token.expiry = since + (grant.lifetime.total - Token.margin.total)

theorem Stocked.cons {token : Token} (stocked : Stocked history token) {dated : Dated}
    (kept : dated.occurrence ≠ .desk .invalidated) : Stocked (dated :: history) token := by
  obtain ⟨recent, answered, exchanger, grant, earlier, since, rfl, unforgotten, facts⟩ := stocked
  exact ⟨dated :: recent, answered, exchanger, grant, earlier, since, rfl,
    List.forall_mem_cons.mpr ⟨kept, unforgotten⟩, facts⟩

/-- Where the token comes from that a caller is served with. -/
inductive Origin (before : List Dated) (moment : Instant) (caller : Nat) (secret : Secret) :
    Prop where
  | own (token : Token) (grant : Grant) (earlier : List Dated)
    (last : before = ⟨moment, .desk (.granted caller token)⟩ ::
      ⟨moment, .identified caller (.ok grant)⟩ :: earlier)
    (same : grant.token = secret)
  | stock (token : Token) (stocked : Stocked before token) (young : moment < token.expiry)
    (same : token.secret = secret)

/-- What stands behind a record, given what was recorded before it. -/
def Justified (before : List Dated) (moment : Instant) : Occurrence → Prop
  | .desk (.served caller secret) => Origin before moment caller secret
  | .sent caller token => ServedSince before caller token
  | .listed caller token delivery =>
    (∃ served, ⟨served, .desk (.served caller token)⟩ ∈ before) ∧
      (rejectsToken delivery = true → ∃ earlier, before = ⟨moment, .desk .invalidated⟩ :: earlier)
  | _ => True

/-- Something stands behind every record. -/
def Accountable : List Dated → Prop
  | [] => True
  | dated :: before => Justified before dated.moment dated.occurrence ∧ Accountable before

theorem Accountable.record {moment : Instant} {occurrence : Occurrence}
    (accountable : Accountable history)
    (split : history = recent ++ ⟨moment, occurrence⟩ :: before) :
    Justified before moment occurrence := by
  induction recent generalizing history with
  | nil =>
      rw [split] at accountable
      exact accountable.1
  | cons head rest ih =>
      rw [split] at accountable
      exact ih accountable.2 rfl

namespace Listings

variable {run : Listings}

structure Sound (run : Listings) : Prop where
  inTurn : run.calls.InTurn
  exchanges : ∀ caller since, run.calls.positions caller = some (.exchanging since) →
    exchangeStart? run.history caller = some since
  stocked : ∀ token, run.calls.desk.current = some token → Stocked run.history token
  numbered : ∀ caller, run.calls.callers ≤ caller → run.uses caller = none
  served : ∀ caller use, run.uses caller = some use →
    ServedSince run.history caller use.token
  accountable : Accountable run.history

theorem start_sound (baseUrl : String) (now : Instant) : Sound (start baseUrl now) where
  inTurn := TokenCalls.start_in_turn none now
  exchanges _ _ exchanging := by cases exchanging
  stocked _ current := by cases current
  numbered _ _ := rfl
  served _ _ holds := by cases holds
  accountable := trivial

theorem Sound.below (sound : Sound run) {caller : Nat} {use : TokenUse}
    (holds : run.uses caller = some use) : caller < run.calls.callers := by
  by_cases late : run.calls.callers ≤ caller
  · rw [sound.numbered caller late] at holds
    cases holds
  · exact Nat.lt_of_not_le late

/-- Callers move on, and nothing is recorded. -/
theorem Sound.recall (sound : Sound run) {after : TokenCalls} (inTurn : after.InTurn)
    (exchanging : ∀ caller since, after.positions caller = some (.exchanging since) →
      run.calls.positions caller = some (.exchanging since))
    (stocked : ∀ token, after.desk.current = some token → Stocked run.history token)
    (more : run.calls.callers ≤ after.callers) : Sound { run with calls := after } where
  inTurn := inTurn
  exchanges caller since inside := sound.exchanges caller since (exchanging caller since inside)
  stocked := stocked
  numbered caller late := sound.numbered caller (Nat.le_trans more late)
  served := sound.served
  accountable := sound.accountable

theorem Sound.aside (sound : Sound run) {after : TokenCalls} (inTurn : after.InTurn) {caller : Nat}
    {position : Option Position}
    (samePositions : after.positions = Function.update run.calls.positions caller position)
    (plain : ∀ since, position ≠ some (.exchanging since))
    (stocked : ∀ token, after.desk.current = some token → Stocked run.history token)
    (more : run.calls.callers ≤ after.callers) : Sound { run with calls := after } := by
  apply sound.recall inTurn _ stocked more
  intro other since exchanging
  rw [samePositions] at exchanging
  by_cases same : other = caller
  · subst same
    rw [Function.update_self] at exchanging
    exact absurd exchanging (plain since)
  · rwa [Function.update_of_ne same] at exchanging

/-- A record with something behind it that begins nothing. -/
theorem Sound.note (sound : Sound run) {occurrence : Occurrence}
    (justified : Justified run.history run.calls.now occurrence)
    (begins : ∀ caller, occurrence.begins caller = false)
    (comes : ∀ caller, occurrence ≠ .came caller)
    (forgets : occurrence = .desk .invalidated → run.calls.desk.current = none) :
    Sound (run.note occurrence) where
  inTurn := sound.inTurn
  exchanges caller since inside := by
    rw [← sound.exchanges caller since inside]
    exact exchangeStart_cons (begins caller) run.history
  stocked token current := by
    apply (sound.stocked token current).cons
    intro forgotten
    rw [show run.calls.desk.current = some token from current] at forgets
    cases forgets forgotten
  numbered := sound.numbered
  served caller use holds := (sound.served caller use holds).cons (comes caller)
  accountable := ⟨justified, sound.accountable⟩

theorem Sound.use (sound : Sound run) (caller : Nat) (use : Option TokenUse)
    (below : use ≠ none → caller < run.calls.callers)
    (held : ∀ taken, use = some taken → ServedSince run.history caller taken.token) :
    Sound (run.use caller use) where
  inTurn := sound.inTurn
  exchanges := sound.exchanges
  stocked := sound.stocked
  numbered other late := by
    change Function.update run.uses caller use other = none
    by_cases same : other = caller
    · subst same
      rw [Function.update_self]
      apply Classical.byContradiction
      intro some
      exact absurd (below some) (Nat.not_lt_of_le late)
    · rw [Function.update_of_ne same]
      exact sound.numbered other late
  served other taken holds := by
    change Function.update run.uses caller use other = some taken at holds
    by_cases same : other = caller
    · subst same
      rw [Function.update_self] at holds
      exact held taken holds
    · rw [Function.update_of_ne same] at holds
      exact sound.served other taken holds
  accountable := sound.accountable

theorem Sound.came (sound : Sound run) : Sound (run.note (.came run.calls.callers)) where
  inTurn := sound.inTurn
  exchanges := sound.exchanges
  stocked token current := (sound.stocked token current).cons (by simp)
  numbered := sound.numbered
  served caller use holds := by
    -- The new caller's number is nobody's yet.
    have other : caller ≠ run.calls.callers := Nat.ne_of_lt (sound.below holds)
    exact (sound.served caller use holds).cons (by simp [other.symm])
  accountable := ⟨trivial, sound.accountable⟩

theorem Sound.serve (sound : Sound run) {caller : Nat} {secret : Secret}
    (origin : Origin run.history run.calls.now caller secret) (below : caller < run.calls.callers) :
    Sound (run.observe (.served caller secret)) := by
  have noted : Sound (run.note (.desk (.served caller secret))) :=
    sound.note origin (fun _ => rfl) (by simp) (by simp)
  apply noted.use
  · exact fun _ => below
  · rintro taken same
    obtain rfl := Option.some.inj same
    exact ServedSince.last run.calls.now run.history caller secret

theorem Sound.begin (sound : Sound run) {after : TokenCalls} {caller : Nat} (inTurn : after.InTurn)
    (sameNow : after.now = run.calls.now)
    (sameCurrent : after.desk.current = run.calls.desk.current)
    (sameCallers : after.callers = run.calls.callers)
    (samePositions : after.positions =
      Function.update run.calls.positions caller (some (.exchanging run.calls.now))) :
    Sound (({ run with calls := after } : Listings).note (.desk (.began caller))) where
  inTurn := inTurn
  exchanges other since exchanging := by
    have inside : after.positions other = some (.exchanging since) := exchanging
    change exchangeStart? (⟨after.now, _⟩ :: run.history) other = some since
    rw [samePositions] at inside
    rw [sameNow]
    by_cases same : other = caller
    · subst same
      rw [Function.update_self] at inside
      cases inside
      simp [exchangeStart?, Occurrence.begins]
    · rw [Function.update_of_ne same] at inside
      have silent : (Occurrence.desk (.began caller)).begins other = false :=
        beq_false_of_ne fun as => same as.symm
      rw [exchangeStart_cons silent]
      exact sound.exchanges other since inside
  stocked token current := (sound.stocked token (sameCurrent.symm.trans current)).cons (by simp)
  numbered other late := sound.numbered other (sameCallers ▸ late)
  served other use holds := (sound.served other use holds).cons (by simp)
  accountable := ⟨trivial, sound.accountable⟩

/-! What the desk does, as lookups see it. -/

theorem follow_one {after : TokenCalls} {event : Event}
    (grown : after.history = event :: run.calls.history) :
    run.follow after = ({ run with calls := after } : Listings).observe event := by
  simp [follow, TokenCalls.added, grown]

theorem follow_two {after : TokenCalls} {last first : Event}
    (grown : after.history = last :: first :: run.calls.history) :
    run.follow after = (({ run with calls := after } : Listings).observe first).observe last := by
  have two : run.calls.history.length + 1 + 1 - run.calls.history.length = 2 := by omega
  simp [follow, TokenCalls.added, grown, two]

theorem Sound.silent {after : TokenCalls} (recalled : Sound { run with calls := after })
    (same : after.history = run.calls.history) : Sound (run.follow after) := by
  have nothing : run.follow after = { run with calls := after } := by
    simp [Listings.follow, TokenCalls.added, same]
  rw [nothing]
  exact recalled

theorem Sound.fresh (sound : Sound run) {secret : Secret} (caller : Nat)
    (fresh : run.calls.desk.fresh? run.calls.now = some secret) :
    Origin run.history run.calls.now caller secret := by
  cases current : run.calls.desk.current with
  | none => simp [Desk.fresh?, current] at fresh
  | some token =>
      simp only [Desk.fresh?, current, Token.isFresh, decide_eq_true_eq] at fresh
      split at fresh
      · rename_i young
        exact .stock token (sound.stocked token current) young (Option.some.inj fresh)
      · cases fresh

theorem Sound.follow (sound : Sound run) {after : TokenCalls} (moves : run.calls.Moves after)
    (barren : after.history.countP Event.grants = run.calls.history.countP Event.grants) :
    Sound (run.follow after) := by
  have inTurn := moves.in_turn sound.inTurn
  -- Where a move is recorded, the callers are moved first and then the record is made.
  cases moves with
  | still => exact sound.silent rfl
  | comeServed fresh =>
      rw [follow_one rfl]
      exact (sound.recall inTurn (fun _ _ inside => inside) sound.stocked
        (Nat.le_succ _)).serve (sound.fresh _ fresh) (Nat.lt_succ_self _)
  | comeLooked stale =>
      exact (sound.aside inTurn rfl (by simp) sound.stocked (Nat.le_succ _)).silent rfl
  | ask looked =>
      exact (sound.aside inTurn rfl (by simp) sound.stocked (Nat.le_refl _)).silent rfl
  | served queued held fresh =>
      rw [follow_one rfl]
      exact (sound.aside inTurn rfl (by simp) sound.stocked (Nat.le_refl _)).serve
        (sound.fresh _ fresh) (sound.inTurn.below queued)
  | began queued held stale =>
      rw [follow_one rfl]
      exact sound.begin inTurn rfl rfl rfl rfl
  | granted exchanging =>
      -- A grant is one more than there were.
      simp [TokenCalls.note, TokenCalls.place, TokenCalls.withDesk, List.countP_cons,
        Event.grants] at barren
  | failed | lookedLeft | queuedLeft | abandoned =>
      rw [follow_one rfl]
      exact (sound.aside inTurn rfl (by simp) sound.stocked (Nat.le_refl _)).note
        trivial (fun _ => rfl) (by simp) (by simp)
  | invalidated =>
      rw [follow_one rfl]
      exact (sound.recall inTurn (fun _ _ inside => inside) (fun _ same => by cases same)
        (Nat.le_refl _)).note trivial (fun _ => rfl) (by simp) (fun _ => rfl)
  | elapsed span =>
      exact (sound.recall inTurn (fun _ _ inside => inside) sound.stocked
        (Nat.le_refl _)).silent rfl

/-- Only the end of an exchange grants a token. -/
theorem barren_step (calls : TokenCalls) {act : TokenCalls.Act}
    (other : ∀ caller answer, act ≠ .finish caller answer) :
    (calls.step act).history.countP Event.grants = calls.history.countP Event.grants := by
  cases act with
  | come =>
      simp only [TokenCalls.step, TokenCalls.come]
      split <;> simp [TokenCalls.note, TokenCalls.place, Event.grants]
  | ask caller =>
      simp only [TokenCalls.step]
      split <;> rfl
  | look caller =>
      simp only [TokenCalls.step, TokenCalls.look]
      split
      · split <;> simp [TokenCalls.note, TokenCalls.place, TokenCalls.withDesk, Event.grants]
      · rfl
  | finish caller answer => exact absurd rfl (other caller answer)
  | giveUp caller =>
      simp only [TokenCalls.step, TokenCalls.giveUp]
      split
      · split <;> simp [TokenCalls.note, TokenCalls.place, TokenCalls.withDesk, Event.grants]
      · rfl
  | invalidate => simp [TokenCalls.step, TokenCalls.note, TokenCalls.withDesk, Event.grants]
  | elapse span => rfl

theorem Sound.move (sound : Sound run) {act : TokenCalls.Act}
    (other : ∀ caller answer, act ≠ .finish caller answer) : Sound (run.move act) :=
  sound.follow (TokenCalls.step_moves run.calls act) (barren_step run.calls other)

/-- The token of a grant is fresh until its lifetime, less the margin, has passed since the exchange
began. -/
theorem brought_token {calls : TokenCalls} (inTurn : calls.InTurn) {caller : Nat} {since : Instant}
    {answer : Answer Grant} {token : Token}
    (exchanging : calls.positions caller = some (.exchanging since))
    (brought : calls.desk.brought? answer = some token) :
    ∃ grant, answer = .ok grant ∧ token.secret = grant.token ∧
      token.expiry = since + (grant.lifetime.total - Token.margin.total) := by
  cases answer with
  | error error => cases brought
  | ok grant =>
      have began := (inTurn.busy caller since exchanging).2
      simp only [Desk.brought?, Desk.tokenOf?, began, Option.getD_some, Token.granted,
        Option.map_eq_some_iff] at brought
      obtain ⟨expiry, reached, rfl⟩ := brought
      have ends := Instant.after_eq_some reached
      rw [Span.dropUpTo, Span.total_ofNanos] at ends
      exact ⟨grant, rfl, rfl, ends⟩

theorem Sound.identify (sound : Sound run) {caller : Nat} {since : Instant} (answer : Answer Grant)
    (exchanging : run.calls.positions caller = some (.exchanging since)) :
    Sound ((run.note (.identified caller answer)).move (.finish caller answer)) := by
  have noted : Sound (run.note (.identified caller answer)) :=
    sound.note trivial (fun _ => rfl) (by simp) (by simp)
  have inTurn := (TokenCalls.step_moves run.calls (.finish caller answer)).in_turn sound.inTurn
  -- The answer is on record before the exchange ends, so a token that it brings is in stock.
  have ends : run.calls.step (.finish caller answer) = run.calls.finish caller answer := by
    simp [TokenCalls.step, exchanging]
  rw [ends] at inTurn
  change Sound ((run.note (.identified caller answer)).follow
    (run.calls.step (.finish caller answer)))
  rw [ends]
  cases brought : run.calls.desk.brought? answer with
  | none =>
      rw [TokenCalls.finish_barren brought] at inTurn ⊢
      rw [follow_one rfl]
      exact (noted.aside inTurn rfl (by simp) noted.stocked (Nat.le_refl _)).note
        trivial (fun _ => rfl) (by simp) (by simp)
  | some token =>
      rw [TokenCalls.finish_brought brought] at inTurn ⊢
      rw [follow_two rfl]
      obtain ⟨grant, rfl, secret, expiry⟩ := brought_token sound.inTurn exchanging brought
      have stocked : ∀ other, some token = some other →
          Stocked (run.note (.identified caller (.ok grant))).history other := by
        rintro other same
        obtain rfl := Option.some.inj same
        exact ⟨[], run.calls.now, caller, grant, run.history, since, rfl, by simp,
          sound.exchanges caller since exchanging, secret, expiry⟩
      have recalled := noted.aside inTurn rfl (by simp) stocked (Nat.le_refl _)
      have granted : Sound (Listings.note _ (.desk (.granted caller token))) :=
        recalled.note trivial (fun _ => rfl) (by simp) (by simp)
      exact granted.serve (.own token grant run.history rfl secret.symm)
        (sound.inTurn.below exchanging)

theorem Sound.send (sound : Sound run) {caller : Nat} {token : Secret}
    (holds : run.uses caller = some (.holding token)) :
    Sound ((run.note (.sent caller token)).use caller (some (.listing token))) := by
  have served := sound.served caller (.holding token) holds
  have noted : Sound (run.note (.sent caller token)) :=
    sound.note served (fun _ => rfl) (by simp) (by simp)
  apply noted.use
  · intro _
    exact sound.below holds
  · rintro taken same
    obtain rfl := Option.some.inj same
    exact served.cons (by simp)

theorem Sound.list (sound : Sound run) {caller : Nat} {token : Secret} (delivery : Delivery)
    (lists : run.uses caller = some (.listing token)) :
    Sound (((if rejectsToken delivery then run.move .invalidate else run).note
      (.listed caller token delivery)).use caller none) := by
  obtain ⟨served, member⟩ := (sound.served caller (.listing token) lists).served
  have forgets : (run.move .invalidate).history =
      ⟨run.calls.now, .desk .invalidated⟩ :: run.history := by
    change (run.follow _).history = _
    rw [follow_one rfl]
    rfl
  have still : (run.move .invalidate).calls.now = run.calls.now := by
    change (run.follow _).calls.now = _
    rw [follow_one rfl]
    rfl
  have handled : Sound ((if rejectsToken delivery then run.move .invalidate else run).note
      (.listed caller token delivery)) := by
    by_cases rejects : rejectsToken delivery = true
    · rw [if_pos rejects]
      refine (sound.move (by simp)).note ?_ (fun _ => rfl) (by simp) (by simp)
      refine ⟨⟨served, ?_⟩, fun _ => ⟨run.history, forgets.trans ?_⟩⟩
      · rw [forgets]
        exact List.mem_cons_of_mem _ member
      · rw [still]
    · rw [if_neg rejects]
      refine sound.note ?_ (fun _ => rfl) (by simp) (by simp)
      exact ⟨⟨served, member⟩, fun refused => absurd refused rejects⟩
  exact handled.use caller none (by simp) (by simp)

theorem Sound.step (sound : Sound run) (act : Act) : Sound (run.step act) := by
  cases act with
  | fetch name =>
      simp only [Listings.step]
      split
      · exact sound
      · exact sound.came.move (by simp)
  | ask caller => exact sound.move (by simp)
  | look caller => exact sound.move (by simp)
  | identify caller answer =>
      simp only [Listings.step]
      split
      · rename_i since exchanging
        exact sound.identify answer exchanging
      · exact sound
  | send caller =>
      simp only [Listings.step]
      split
      · rename_i token holds
        split
        · exact sound.send holds
        · exact sound.use caller none (by simp) (by simp)
      · exact sound
  | list caller delivery =>
      simp only [Listings.step]
      split
      · rename_i token lists
        exact sound.list delivery lists
      · exact sound
  | giveUp caller => exact (sound.move (by simp)).use caller none (by simp) (by simp)
  | invalidate => exact sound.move (by simp)
  | elapse span => exact sound.move (by simp)

theorem run_sound (baseUrl : String) (now : Instant) (acts : List Act) :
    Sound (Listings.run baseUrl now acts) :=
  List.foldlRecOn acts Listings.step (start_sound baseUrl now) fun _ sound act _ => sound.step act

end Listings

/-! Tokens are served since they were issued. -/

theorem Origin.issued {moment : Instant} {secret : Secret}
    (origin : Origin before moment caller secret) : secret ∈ issued before := by
  cases origin with
  | own token grant earlier last same =>
      rw [last, ← same]
      exact issued_here [_] earlier moment caller grant
  | stock token stocked young same =>
      obtain ⟨recent, answered, exchanger, grant, earlier, since, rfl, -, -, secret, -⟩ := stocked
      rw [← same, secret]
      exact issued_here recent earlier answered exchanger grant

/-- What is served after the desk has forgotten its token was issued after that. -/
theorem Origin.issued_since {forgotten moment : Instant} {secret : Secret}
    (origin : Origin (recent ++ ⟨forgotten, .desk .invalidated⟩ :: older) moment caller secret) :
    secret ∈ SecretBroker.Api.issued recent := by
  cases origin with
  | own token grant earlier last same =>
      match recent, last with
      | [], last => cases last
      | [_], last => cases last
      | _ :: second :: rest, last =>
          obtain ⟨rfl, _⟩ := List.cons.inj (List.cons.inj last).2
          rw [← same]
          exact issued_here [_] rest moment caller grant
  | stock token stocked young same =>
      obtain ⟨later, answered, exchanger, grant, earlier, since, split, kept, -, secret, -⟩ :=
        stocked
      rw [← same, secret]
      -- The grant stands above the forgetting, since nothing was forgotten after it.
      rcases List.append_eq_append_iff.mp split with ⟨between, rfl, below⟩ | ⟨between, rfl, below⟩
      · cases between with
        | nil => cases (List.cons.inj below).1
        | cons head rest =>
            obtain ⟨rfl, _⟩ := List.cons.inj below
            exact absurd rfl (kept ⟨forgotten, .desk .invalidated⟩ (by simp))
      · cases between with
        | nil => cases (List.cons.inj below).1
        | cons head rest =>
            obtain ⟨rfl, _⟩ := List.cons.inj below
            exact issued_here later rest answered exchanger grant

theorem Accountable.issued_by {served : Instant} {token : Secret}
    (accountable : Accountable history) (split : history = recent ++ older)
    (member : ⟨served, .desk (.served caller token)⟩ ∈ older) : token ∈ issued older := by
  obtain ⟨later, before, rfl⟩ := List.append_of_mem member
  have origin : Origin before served caller token :=
    accountable.record (split.trans (List.append_assoc _ _ _).symm)
  rw [issued_append]
  exact List.mem_append_right _ origin.issued

theorem Accountable.issued_since {served forgotten : Instant} {token : Secret}
    (accountable : Accountable history)
    (split : history = recent ++ ⟨forgotten, .desk .invalidated⟩ :: older)
    (member : ⟨served, .desk (.served caller token)⟩ ∈ recent) : token ∈ issued recent := by
  obtain ⟨later, before, rfl⟩ := List.append_of_mem member
  have origin : Origin (before ++ ⟨forgotten, .desk .invalidated⟩ :: older) served caller token :=
    accountable.record (split.trans (List.append_assoc _ _ _))
  rw [issued_append]
  exact List.mem_append_right _ origin.issued_since

/-- After a token was turned away nobody is served with it, unless it is issued again. -/
theorem Accountable.turned_away {later before : List Dated} {moment served : Instant} {lister : Nat}
    {token : Secret} {delivery : Delivery} (accountable : Accountable history)
    (distinct : (issued history).Nodup)
    (split : history = later ++ ⟨moment, .listed lister token delivery⟩ :: before)
    (rejected : rejectsToken delivery = true) :
    ⟨served, .desk (.served caller token)⟩ ∉ later := by
  intro member
  obtain ⟨⟨earlier, listed⟩, forgets⟩ := accountable.record split
  obtain ⟨older, rfl⟩ := forgets rejected
  have past : history = (later ++ [⟨moment, .listed lister token delivery⟩]) ++
      ⟨moment, .desk .invalidated⟩ :: older := by simp [split]
  -- The lister had the token before, and the other one would have it from an issue after that.
  have before : token ∈ issued (⟨moment, .desk .invalidated⟩ :: older) :=
    accountable.issued_by past listed
  have after : token ∈ issued (later ++ [⟨moment, .listed lister token delivery⟩]) :=
    accountable.issued_since past (List.mem_append_left _ member)
  rw [past, issued_append] at distinct
  exact (List.nodup_append.mp distinct).2.2 token after token before rfl

namespace Listings

/-- In every run in which the identity service never issues the same token twice: whoever is served
is served with the token of its own exchange, or with one whose lifetime, less the margin, has not
passed since its exchange began. Lookups send the token that they were served with since they came;
and a lookup that comes after the vault has turned a token away is not served with that token and
does not send it. -/
theorem rejected_tokens_stay_out (baseUrl : String) (now : Instant) (acts : List Act)
    (distinct : (issued (run baseUrl now acts).history).Nodup) :
    let history := (run baseUrl now acts).history
    (∀ later moment caller secret before,
      history = later ++ ⟨moment, .desk (.served caller secret)⟩ :: before →
        (∃ token grant earlier,
          before = ⟨moment, .desk (.granted caller token)⟩ ::
            ⟨moment, .identified caller (.ok grant)⟩ :: earlier ∧ grant.token = secret) ∨
        ∃ recent answered exchanger grant earlier since,
          before = recent ++ ⟨answered, .identified exchanger (.ok grant)⟩ :: earlier ∧
          exchangeStart? earlier exchanger = some since ∧ grant.token = secret ∧
          moment < since + (grant.lifetime.total - Token.margin.total)) ∧
    (∀ later moment caller token before,
      history = later ++ ⟨moment, .sent caller token⟩ :: before →
        ServedSince before caller token) ∧
    ∀ later moment lister token delivery before,
      history = later ++ ⟨moment, .listed lister token delivery⟩ :: before →
        rejectsToken delivery = true →
          ∀ recent came caller between, later = recent ++ ⟨came, .came caller⟩ :: between →
            ∀ dated ∈ recent, dated.occurrence ≠ .desk (.served caller token) ∧
              dated.occurrence ≠ .sent caller token := by
  intro history
  have accountable : Accountable history := (run_sound baseUrl now acts).accountable
  refine ⟨?_, ?_, ?_⟩
  · intro later moment caller secret before split
    have origin : Origin before moment caller secret := accountable.record split
    cases origin with
    | own token grant earlier last same => exact Or.inl ⟨token, grant, earlier, last, same⟩
    | stock token stocked young same =>
        obtain ⟨recent, answered, exchanger, grant, earlier, since, whole, facts⟩ := stocked
        obtain ⟨-, began, secret, expiry⟩ := facts
        rw [expiry] at young
        exact Or.inr ⟨recent, answered, exchanger, grant, earlier, since, whole, began,
          secret.symm.trans same, young⟩
  · intro later moment caller token before split
    exact accountable.record split
  · intro later moment lister token delivery before split rejected recent came caller between whole
      dated member
    have silent (served : Instant) : ⟨served, .desk (.served caller token)⟩ ∉ later :=
      accountable.turned_away distinct split rejected
    rw [whole] at silent
    constructor
    · intro same
      apply silent dated.moment
      rw [← same]
      exact List.mem_append_left _ member
    · intro same
      -- It was served since it came, and so after the token was turned away.
      obtain ⟨after, rest, rfl⟩ := List.append_of_mem member
      have here : history = after ++ ⟨dated.moment, .sent caller token⟩ ::
          (rest ++ ⟨came, .came caller⟩ ::
            (between ++ ⟨moment, .listed lister token delivery⟩ :: before)) := by
        simp [split, whole, ← same]
      obtain ⟨served, since⟩ := accountable.record here
      have inside := (sinceComing_recent came rest _).subset since
      exact silent served (by simp [inside])

/-- The vault turns a token away, and another lookup comes. -/
def rejecting : List Act :=
  [.fetch "A", .ask 0, .look 0, .identify 0 (.ok ⟨⟨"old"⟩, .ofSeconds 3600⟩), .send 0,
    .list 0 (.answer 401 none), .fetch "B", .ask 1, .look 1,
    .identify 1 (.ok ⟨⟨"new"⟩, .ofSeconds 3600⟩), .send 1]

/-- What is recorded after the other lookup came. -/
def renewal : List Dated :=
  [⟨0, .sent 1 ⟨"new"⟩⟩, ⟨0, .desk (.served 1 ⟨"new"⟩)⟩,
    ⟨0, .desk (.granted 1 ⟨⟨"new"⟩, 3300000000000⟩)⟩,
    ⟨0, .identified 1 (.ok ⟨⟨"new"⟩, .ofSeconds 3600⟩)⟩, ⟨0, .desk (.began 1)⟩]

theorem rejected_token_renewed :
    let history := (run "https://vault" 0 rejecting).history
    let past := (run "https://vault" 0 (rejecting.take 5)).history
    (issued history).Nodup ∧
      history = renewal ++ ⟨0, .came 1⟩ :: [] ++
        ⟨0, .listed 0 ⟨"old"⟩ (.answer 401 none)⟩ :: ⟨0, .desk .invalidated⟩ :: past ∧
      ∀ dated ∈ renewal, dated.occurrence ≠ .desk (.served 1 ⟨"old"⟩) ∧
        dated.occurrence ≠ .sent 1 ⟨"old"⟩ := by
  have distinct : (issued (run "https://vault" 0 rejecting).history).Nodup := by decide +kernel
  have whole : (run "https://vault" 0 rejecting).history = renewal ++ ⟨0, .came 1⟩ :: [] ++
      ⟨0, .listed 0 ⟨"old"⟩ (.answer 401 none)⟩ :: ⟨0, .desk .invalidated⟩ ::
        (run "https://vault" 0 (rejecting.take 5)).history := by decide +kernel
  obtain ⟨_, _, turnedAway⟩ := rejected_tokens_stay_out "https://vault" 0 rejecting distinct
  exact ⟨distinct, whole, turnedAway _ _ _ _ _ _ whole rfl _ _ _ _ rfl⟩

end Listings
end SecretBroker.Api
