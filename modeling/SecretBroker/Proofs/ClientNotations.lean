import SecretBroker.Proofs.AccessGate
import SecretBroker.Proofs.AddressTexts
import SecretBroker.Proofs.ForwardedClient
import SecretBroker.Proofs.TrackedClients

/-!
One client in two notations. An IPv4 address also comes as the IPv6 address that carries it, from a
socket or in a forwarded header. The allowlist takes both for one client. The rate limiter goes by
the text of the address as it came: each of the two has a bucket of its own, and with it a whole
budget of requests.
-/

namespace SecretBroker

namespace Net.Address

/-- The IPv6 address that stands for the same client. -/
def inV6 : Address → Address
  | .v4 bits => .carrying bits
  | .v6 bits => .v6 bits

theorem notation_cases (address : Address) :
    address = address.canonical ∨ address = address.canonical.inV6 := by
  by_cases carried : address.Carried
  · obtain ⟨bits, rfl⟩ := carried
    rw [canonical_carrying]
    exact .inr rfl
  · exact .inl (canonical_of_uncarried carried).symm

/-- Two addresses of one client are the same if both carry an IPv4 address or neither does. -/
theorem eq_iff_carried {one other : Address} (alike : one.canonical = other.canonical) :
    one = other ↔ (one.Carried ↔ other.Carried) := by
  constructor
  · rintro rfl
    rfl
  · intro same
    by_cases carried : one.Carried
    · obtain ⟨bits', rfl⟩ := same.mp carried
      obtain ⟨bits, rfl⟩ := carried
      rw [canonical_carrying, canonical_carrying, Address.v4.injEq] at alike
      rw [alike]
    · rw [canonical_of_uncarried carried, canonical_of_uncarried (mt same.mpr carried)] at alike
      exact alike

end Net.Address

theorem Allowlist.admitsClient_canonical (list : Allowlist) {one other : Net.Address}
    (alike : one.canonical = other.canonical) :
    list.admitsClient (some one) = list.admitsClient (some other) := by
  simp only [admitsClient, Option.any_some, admits, alike]

namespace Http

open Net RateLimit

variable {request one other : Request} {trust : Bool} {address : Address}

theorem clientKey_known (known : request.client trust = some address) :
    request.clientKey trust = address.text := by
  rw [Request.clientKey, known, Option.elim_some]

/-- No other address has the key, and no request without one. -/
theorem clientKey_eq_text :
    request.clientKey trust = address.text ↔ request.client trust = some address := by
  constructor
  · intro same
    cases known : request.client trust with
    | none =>
        rw [Request.clientKey, known] at same
        exact absurd same.symm (Address.text_ne_unknown address)
    | some found =>
        rw [clientKey_known known] at same
        exact congrArg some (Address.text_injective same)
  · exact clientKey_known

/-! Behind the rate limiter nothing touches it any more. -/

namespace Service

variable {service : Service} {now : Instant}

theorem lookup_limiter (escaped : String) :
    (service.lookup request escaped now).1.limiter = service.limiter := by
  unfold lookup
  split
  · rfl
  · rename_i name _
    split
    · rfl
    · dsimp only
      cases (service.resolver.begin name now).2 <;> rfl

theorem handle_limiter (route : Route) :
    (service.handle request route now).1.limiter = service.limiter := by
  unfold handle
  split
  · rfl
  · cases route with
    | secret escaped => exact lookup_limiter escaped
    | health | metrics | unnamedSecret | refresh => rfl

theorem accept_limiter (ordinary : request.isPreflight = false) :
    (service.accept request now).1.limiter = (service.limitCheck request now).1 := by
  cases told : (service.limitCheck request now).2 with
  | refused seconds =>
      rw [accept_refused ordinary told]
      rfl
  | granted =>
      rw [accept_granted ordinary told]
      cases service.policy.route? request with
      | none => rfl
      | some route =>
          dsimp only
          split
          · rfl
          · exact handle_limiter route

end Service

/-! Runs of requests. -/

structure Arrival where
  request : Request
  moment : Instant
  deriving DecidableEq

namespace Arrival

/-- What the rate limiter is asked when a request arrives. -/
def check (trust : Bool) (arrival : Arrival) : Check :=
  ⟨arrival.request.clientKey trust, arrival.moment⟩

/-- The request comes from just this address. -/
def isFrom (trust : Bool) (address : Address) (arrival : Arrival) : Bool :=
  arrival.request.client trust = some address

/-- The request comes from the client of an address, in whatever notation. -/
def isOf (trust : Bool) (address : Address) (arrival : Arrival) : Bool :=
  (arrival.request.client trust).map Address.canonical = some address.canonical

end Arrival

/-- A client keeps to the notation of one of its addresses. -/
def KeepsTo (trust : Bool) (address : Address) (arrivals : List Arrival) : Prop :=
  ∀ arrival ∈ arrivals, ∀ other, arrival.request.client trust = some other →
    other.canonical = address.canonical → (other.Carried ↔ address.Carried)

/-- A run of requests that reach the rate limiter, each with what it is told. -/
def hear {R : Type} [Quantity R] (trust : Bool) (limiter : Limiter R) :
    List Arrival → List (Arrival × Verdict)
  | [] => []
  | arrival :: rest =>
    let (limiter', verdict) := limiter.check (arrival.request.clientKey trust) arrival.moment
    (arrival, verdict) :: hear trust limiter' rest

/-- How many requests of a kind pass between two instants. -/
def passed (wanted : Arrival → Bool) (first last : Instant) (heard : List (Arrival × Verdict)) :
    Nat :=
  heard.countP fun answer => wanted answer.1 ∧ answer.2 = .granted ∧
    first ≤ answer.1.moment ∧ answer.1.moment ≤ last

/-- What a bucket gives away at most between two instants. -/
def budget (policy : RateLimit.Policy) (first last : Instant) : Rat :=
  policy.capacity + (last - first : Nat) * policy.capacity / policy.period.total

/-- Two requests at one instant, each as often as a bucket has tokens. -/
def bursts (policy : RateLimit.Policy) (one other : Request) (now : Instant) : List Arrival :=
  .replicate policy.capacity ⟨one, now⟩ ++ .replicate policy.capacity ⟨other, now⟩

section Runs

variable {arrivals : List Arrival} {heard : List (Arrival × Verdict)} {first last : Instant}

theorem passed_mono {wanted other : Arrival → Bool}
    (weaker : ∀ answer ∈ heard, wanted answer.1 = true → other answer.1 = true) :
    passed wanted first last heard ≤ passed other first last heard := by
  refine List.countP_mono_left fun answer member counted => ?_
  obtain ⟨isWanted, rest⟩ := of_decide_eq_true counted
  exact decide_eq_true ⟨weaker answer member isWanted, rest⟩

theorem passed_or_le (one other : Arrival → Bool) :
    passed (fun arrival => one arrival || other arrival) first last heard ≤
      passed one first last heard + passed other first last heard := by
  unfold passed
  induction heard with
  | nil => exact Nat.zero_le _
  | cons answer rest ih =>
      simp only [List.countP_cons]
      grind

theorem passed_all {wanted : Arrival → Bool}
    (all : ∀ answer ∈ heard, wanted answer.1 ∧ answer.2 = .granted ∧
      first ≤ answer.1.moment ∧ answer.1.moment ≤ last) :
    passed wanted first last heard = heard.length :=
  List.countP_eq_length.mpr fun answer member => decide_eq_true (all answer member)

theorem hear_arrivals {R : Type} [Quantity R] (trust : Bool) (limiter : Limiter R)
    (arrivals : List Arrival) :
    (hear trust limiter arrivals).map Prod.fst = arrivals := by
  induction arrivals generalizing limiter with
  | nil => rfl
  | cons arrival rest ih => exact congrArg (arrival :: ·) (ih _)

theorem hear_length {R : Type} [Quantity R] (trust : Bool) (limiter : Limiter R)
    (arrivals : List Arrival) : (hear trust limiter arrivals).length = arrivals.length := by
  have length := congrArg List.length (hear_arrivals trust limiter arrivals)
  rwa [List.length_map] at length

theorem hear_answers {R : Type} [Quantity R] (trust : Bool) (limiter : Limiter R)
    (arrivals : List Arrival) :
    (hear trust limiter arrivals).map (fun answer => (answer.1.check trust, answer.2)) =
      limiter.answers (arrivals.map (·.check trust)) := by
  induction arrivals generalizing limiter with
  | nil => rfl
  | cons arrival rest ih => exact congrArg (_ :: ·) (ih _)

theorem mem_of_heard {R : Type} [Quantity R] {limiter : Limiter R} {answer : Arrival × Verdict}
    (member : answer ∈ hear trust limiter arrivals) : answer.1 ∈ arrivals := by
  rw [← hear_arrivals trust limiter arrivals]
  exact List.mem_map_of_mem member

theorem ordered_checks (ordered : arrivals.Pairwise (·.moment ≤ ·.moment)) (trust : Bool) :
    (arrivals.map (·.check trust)).Pairwise (·.moment ≤ ·.moment) :=
  List.pairwise_map.mpr ordered

/-- An address has at most one budget. -/
theorem address_within_budget {policy : RateLimit.Policy} (period : 0 < policy.period.total)
    (ordered : arrivals.Pairwise (·.moment ≤ ·.moment)) (trust : Bool) (address : Address)
    (order : first ≤ last) :
    (passed (·.isFrom trust address) first last (hear trust (.new policy : Limiter Rat) arrivals)
      : Rat) ≤ budget policy first last := by
  have bound : (grants address.text first last ((Limiter.new policy : Limiter Rat).answers
      (arrivals.map (·.check trust))) : Rat) ≤ policy.full + policy.inflow (last - first) :=
    Limiter.grants_le_window (Limiter.new_sound policy 0) address.text
      (Nat.zero_le first) order (ordered_checks ordered trust) fun _ _ => Nat.zero_le _
  rw [← hear_answers, grants, List.countP_map, Policy.inflow_eq period] at bound
  refine le_trans (Nat.cast_le.mpr (List.countP_mono_left ?_)) bound
  intro answer _ counted
  obtain ⟨isFrom, granted, inside⟩ := of_decide_eq_true counted
  exact decide_eq_true ⟨clientKey_known (of_decide_eq_true isFrom), granted, inside⟩

/-- So has a client that keeps to one notation. -/
theorem client_within_budget {policy : RateLimit.Policy} (period : 0 < policy.period.total)
    (ordered : arrivals.Pairwise (·.moment ≤ ·.moment)) {address : Address}
    (keeps : KeepsTo trust address arrivals) (order : first ≤ last) :
    (passed (·.isOf trust address) first last (hear trust (.new policy : Limiter Rat) arrivals)
      : Rat) ≤ budget policy first last := by
  have single : passed (·.isOf trust address) first last
        (hear trust (.new policy : Limiter Rat) arrivals) ≤
      passed (·.isFrom trust address) first last
        (hear trust (.new policy : Limiter Rat) arrivals) := by
    refine passed_mono fun answer member isOf => ?_
    obtain ⟨other, found, alike⟩ := Option.map_eq_some_iff.mp (of_decide_eq_true isOf)
    have carried := keeps answer.1 (mem_of_heard member) other found alike
    rw [(Address.eq_iff_carried alike).mpr carried] at found
    exact decide_eq_true found
  exact (Nat.cast_le.mpr single).trans (address_within_budget period ordered trust address order)

/-- A client has at most two budgets. -/
theorem client_within_budgets {policy : RateLimit.Policy} (period : 0 < policy.period.total)
    (ordered : arrivals.Pairwise (·.moment ≤ ·.moment)) (trust : Bool) (client : Address)
    (order : first ≤ last) :
    (passed (·.isOf trust client) first last (hear trust (.new policy : Limiter Rat) arrivals)
      : Rat) ≤ 2 * budget policy first last := by
  have plain := address_within_budget period ordered trust client.canonical order
  have carried := address_within_budget period ordered trust client.canonical.inV6 order
  generalize hear trust (.new policy : Limiter Rat) arrivals = heard at plain carried ⊢
  have parted : passed (·.isOf trust client) first last heard ≤
      passed (·.isFrom trust client.canonical) first last heard +
        passed (·.isFrom trust client.canonical.inV6) first last heard := by
    refine (passed_mono fun answer _ isOf => ?_).trans (passed_or_le _ _)
    obtain ⟨address, known, alike⟩ := Option.map_eq_some_iff.mp (of_decide_eq_true isOf)
    rw [Bool.or_eq_true, Arrival.isFrom, Arrival.isFrom, known, ← alike, decide_eq_true_iff,
      decide_eq_true_iff, Option.some.injEq, Option.some.injEq]
    exact address.notation_cases
  calc (passed (·.isOf trust client) first last heard : Rat)
      ≤ passed (·.isFrom trust client.canonical) first last heard +
          passed (·.isFrom trust client.canonical.inV6) first last heard := by exact_mod_cast parted
    _ ≤ budget policy first last + budget policy first last := add_le_add plain carried
    _ = 2 * budget policy first last := (two_mul _).symm

/-- What is said to an address depends on the requests from that very address alone. -/
theorem address_heard_alone (policy : RateLimit.Policy)
    (ordered : arrivals.Pairwise (·.moment ≤ ·.moment)) (trust : Bool) (address : Address) :
    (hear trust (.new policy : Limiter Rat) arrivals).filter (·.1.isFrom trust address) =
      hear trust (.new policy : Limiter Rat) (arrivals.filter (·.isFrom trust address)) := by
  have sameTest : ∀ arrival : Arrival,
      decide ((arrival.check trust).key = address.text) = arrival.isFrom trust address :=
    fun arrival => decide_eq_decide.mpr clientKey_eq_text
  have alone := Limiter.answers_of_key (arrivals.map (·.check trust))
    (Alike.start policy address.text 0) (ordered_checks ordered trust) fun _ _ => Nat.zero_le _
  rw [← hear_answers, List.filter_map, List.filter_map, ← hear_answers] at alone
  simp only [Function.comp_def, sameTest] at alone
  have verdicts := congrArg (List.map Prod.snd) alone
  rw [List.map_map, List.map_map] at verdicts
  have arrived : ((hear trust (.new policy : Limiter Rat) arrivals).filter
      (·.1.isFrom trust address)).map Prod.fst = arrivals.filter (·.isFrom trust address) := by
    have all := hear_arrivals trust (.new policy : Limiter Rat) arrivals
    have parted := List.filter_map (f := Prod.fst) (p := Arrival.isFrom trust address)
      (l := hear trust (.new policy : Limiter Rat) arrivals)
    rw [all] at parted
    exact parted.symm
  exact (List.zip_of_prod arrived verdicts).trans
    (List.zip_of_prod (hear_arrivals trust _ _) rfl).symm

theorem burst_granted (policy : RateLimit.Policy) (trust : Bool) (request : Request)
    (now : Instant) :
    ∀ answer ∈ hear trust (.new policy : Limiter Rat) (.replicate policy.capacity ⟨request, now⟩),
      answer.2 = .granted := by
  have full : (policy.capacity : Rat) ≤
      (Limiter.new policy : Limiter Rat).level (request.clientKey trust) now := by
    rw [Limiter.level_new]
    exact le_rfl
  have granted := Limiter.granted_at_once (Limiter.new_sound policy now) policy.capacity full
  intro answer member
  apply granted (answer.1.check trust, answer.2)
  have heard := List.mem_map_of_mem (f := fun answer => (answer.1.check trust, answer.2)) member
  rwa [hear_answers, List.map_replicate] at heard

/-- Whatever else arrives, an address gets its whole budget at once. -/
theorem address_burst_granted {policy : RateLimit.Policy} {address : Address} {now : Instant}
    (ordered : arrivals.Pairwise (·.moment ≤ ·.moment))
    (burst : arrivals.filter (·.isFrom trust address) = .replicate policy.capacity ⟨request, now⟩)
    {answer : Arrival × Verdict} (member : answer ∈ hear trust (.new policy : Limiter Rat) arrivals)
    (own : answer.1.isFrom trust address = true) : answer.2 = .granted := by
  have listed : answer ∈ (hear trust (.new policy : Limiter Rat) arrivals).filter
      (·.1.isFrom trust address) := List.mem_filter.mpr ⟨member, own⟩
  rw [address_heard_alone policy ordered, burst] at listed
  exact burst_granted policy trust request now answer listed

theorem mem_bursts {policy : RateLimit.Policy} {now : Instant} {arrival : Arrival}
    (member : arrival ∈ bursts policy one other now) :
    arrival = ⟨one, now⟩ ∨ arrival = ⟨other, now⟩ :=
  (List.mem_append.mp member).imp List.eq_of_mem_replicate List.eq_of_mem_replicate

theorem bursts_ordered (policy : RateLimit.Policy) (one other : Request) (now : Instant) :
    (bursts policy one other now).Pairwise (·.moment ≤ ·.moment) := by
  refine List.pairwise_of_forall_mem_list fun early isEarly late isLate => ?_
  rcases mem_bursts isEarly with rfl | rfl <;> rcases mem_bursts isLate with rfl | rfl <;>
    exact Nat.le_refl now

/-- Two addresses of one client get two whole budgets at once. -/
theorem two_budgets_granted {address address' : Address}
    (known : one.client trust = some address) (alsoKnown : other.client trust = some address')
    (alike : address.canonical = address'.canonical) (differ : address ≠ address')
    (policy : RateLimit.Policy) (now : Instant) :
    passed (·.isOf trust address) now now
      (hear trust (.new policy : Limiter Rat) (bursts policy one other now)) =
      2 * policy.capacity := by
  have ordered := bursts_ordered policy one other now
  have plain : (bursts policy one other now).filter (·.isFrom trust address) =
      .replicate policy.capacity ⟨one, now⟩ := by
    simp [bursts, Arrival.isFrom, known, alsoKnown, differ.symm]
  have carried : (bursts policy one other now).filter (·.isFrom trust address') =
      .replicate policy.capacity ⟨other, now⟩ := by
    simp [bursts, Arrival.isFrom, known, alsoKnown, differ]
  have all : ∀ answer ∈ hear trust (.new policy : Limiter Rat) (bursts policy one other now),
      answer.1.isOf trust address ∧ answer.2 = .granted ∧
        now ≤ answer.1.moment ∧ answer.1.moment ≤ now := by
    intro answer member
    rcases mem_bursts (mem_of_heard member) with isOne | isOther
    · have own : answer.1.isFrom trust address = true := by simp [Arrival.isFrom, isOne, known]
      have granted := address_burst_granted ordered plain member own
      simp [Arrival.isOf, isOne, known, granted]
    · have own : answer.1.isFrom trust address' = true := by
        simp [Arrival.isFrom, isOther, alsoKnown]
      have granted := address_burst_granted ordered carried member own
      simp [Arrival.isOf, isOther, alsoKnown, alike, granted]
  rw [passed_all all, hear_length, bursts, List.length_append, List.length_replicate,
    List.length_replicate, two_mul]

end Runs

/-! Two requests. -/

/-- A service that has seen no request yet. -/
def newService (trust : Bool) (allowlist : Allowlist) (policy : RateLimit.Policy) : Service where
  policy := ⟨⟨"key"⟩, trust, false, .any, ⟨10, 0⟩, false⟩
  limiter := .new policy
  allowlist := allowlist
  resolver := .start ⟨300, 0⟩ 0

/-- What a limiter with room says to a key and keeps of it. -/
theorem check_spacious {R : Type} [Quantity R] {limiter : Limiter R} {key : String} {now : Instant}
    (few : limiter.tracked < trackedBound) :
    let taken := ((limiter.buckets[key]?).getD (.new limiter.policy now)).take limiter.policy now
    limiter.check key now =
      ({ limiter with buckets := limiter.buckets.insert key taken.1 }, taken.2) := by
  have room : limiter.roomFor key now = limiter := by
    simp [Limiter.roomFor, Nat.not_le_of_lt few]
  simp only [Limiter.check, room]

theorem new_spacious (policy : RateLimit.Policy) :
    (Limiter.new policy : Limiter Float).tracked < trackedBound := by
  rw [Limiter.tracked, Limiter.new, Std.HashMap.size_empty]
  decide

/-- The first check leaves the bucket of its own key and no other. -/
theorem first_check_contains (policy : RateLimit.Policy) (key asked : String) (now : Instant) :
    ((Limiter.new policy : Limiter Float).check key now).1.buckets.contains asked =
      (key == asked) := by
  rw [check_spacious (new_spacious policy), Std.HashMap.contains_insert, Limiter.new,
    Std.HashMap.contains_empty, Bool.or_false]

theorem same_limiter_iff (ordinary : one.isPreflight = false)
    (alsoOrdinary : other.isPreflight = false) :
    (∀ (service : Service) (now : Instant), service.policy.trustForwarded = trust →
      (service.accept one now).1.limiter = (service.accept other now).1.limiter) ↔
      one.clientKey trust = other.clientKey trust := by
  constructor
  · intro same
    have limiters := same (newService trust (.new [] false) (.perMinute 1)) 0 rfl
    rw [Service.accept_limiter ordinary, Service.accept_limiter alsoOrdinary] at limiters
    have held := congrArg (·.buckets.contains (one.clientKey trust)) limiters
    have own := first_check_contains (.perMinute 1) (one.clientKey trust) (one.clientKey trust) 0
    have others :=
      first_check_contains (.perMinute 1) (other.clientKey trust) (one.clientKey trust) 0
    have found := others.symm.trans (held.symm.trans (own.trans (beq_self_eq_true _)))
    exact (beq_iff_eq.mp found).symm
  · intro same service now trusts
    rw [Service.accept_limiter ordinary, Service.accept_limiter alsoOrdinary, Service.limitCheck,
      Service.limitCheck, trusts, same]

/-- To the allowlist the addresses of one client are all the same. The rate limiter has one bucket
for two of them just if both carry an IPv4 address or neither does. So a client may use up two
budgets, one for each notation of its address, and no more than one if it keeps to one notation. -/
theorem buckets_follow_notation (trust : Bool) (one other : Request) (first second : Address)
    (known : one.client trust = some first) (alsoKnown : other.client trust = some second)
    (alike : first.canonical = second.canonical) :
    (∀ list : Allowlist,
      list.admitsClient (one.client trust) = list.admitsClient (other.client trust)) ∧
    (one.clientKey trust = other.clientKey trust ↔ (first.Carried ↔ second.Carried)) ∧
    (one.isPreflight = false → other.isPreflight = false →
      ((∀ (service : Service) (now : Instant), service.policy.trustForwarded = trust →
        (service.accept one now).1.limiter = (service.accept other now).1.limiter) ↔
          (first.Carried ↔ second.Carried))) ∧
    (∀ (policy : RateLimit.Policy) (arrivals : List Arrival), 0 < policy.period.total →
      arrivals.Pairwise (·.moment ≤ ·.moment) →
      let heard := hear trust (.new policy : Limiter Rat) arrivals
      heard.filter (·.1.isFrom trust first) =
        hear trust (.new policy : Limiter Rat) (arrivals.filter (·.isFrom trust first)) ∧
      ∀ start stop, start ≤ stop →
        (passed (·.isOf trust first) start stop heard : Rat) ≤ 2 * budget policy start stop ∧
        (KeepsTo trust first arrivals →
          (passed (·.isOf trust first) start stop heard : Rat) ≤ budget policy start stop)) ∧
    (¬ (first.Carried ↔ second.Carried) → ∀ (policy : RateLimit.Policy) (now : Instant),
      passed (·.isOf trust first) now now
        (hear trust (.new policy : Limiter Rat) (bursts policy one other now)) =
        2 * policy.capacity) := by
  have same := Address.eq_iff_carried alike
  have sameKey : one.clientKey trust = other.clientKey trust ↔ (first.Carried ↔ second.Carried) := by
    rw [clientKey_known known, clientKey_known alsoKnown, Address.text_injective.eq_iff, same]
  refine ⟨fun list => ?_, sameKey, fun ordinary alsoOrdinary => ?_, ?_, fun apart => ?_⟩
  · rw [known, alsoKnown]
    exact list.admitsClient_canonical alike
  · exact (same_limiter_iff ordinary alsoOrdinary).trans sameKey
  · intro policy arrivals period ordered heard
    refine ⟨address_heard_alone policy ordered trust first, fun start stop order => ⟨?_, ?_⟩⟩
    · exact client_within_budgets period ordered trust first order
    · exact fun keeps => client_within_budget period ordered keeps order
  · exact two_budgets_granted known alsoKnown alike (mt same.mp apart)

/-- A request over a connection from an IPv4 client to a socket of both families. -/
def overDualStack : Request :=
  ⟨"GET", ⟨"/secret/A", none⟩, [], some (.carrying 0x0a000005)⟩

/-- One client on a socket and behind a proxy, in the same notation: two of three requests pass. -/
theorem one_notation_one_budget :
    let proxied := ForwardedClient.throughProxy (Text.utf8 "::ffff:10.0.0.5")
    let arrivals : List Arrival := [⟨proxied, 0⟩, ⟨overDualStack, 0⟩, ⟨proxied, 0⟩]
    proxied.clientKey true = overDualStack.clientKey true ∧
      passed (·.isOf true (.carrying 0x0a000005)) 0 0
        (hear true (.new (.perMinute 2) : Limiter Rat) arrivals) ≤ 2 := by
  intro proxied arrivals
  have known : proxied.client true = some (.carrying 0x0a000005) := by decide +kernel
  have alsoKnown : overDualStack.client true = some (.carrying 0x0a000005) := by decide +kernel
  obtain ⟨-, sameKey, -, runs, -⟩ :=
    buckets_follow_notation true proxied overDualStack _ _ known alsoKnown rfl
  obtain ⟨-, bounds⟩ := runs (.perMinute 2) arrivals (by decide) (by decide)
  refine ⟨sameKey.mpr Iff.rfl, ?_⟩
  have keeps : KeepsTo true (.carrying 0x0a000005) arrivals := by
    have clients : ∀ arrival ∈ arrivals,
        arrival.request.client true = some (.carrying 0x0a000005) := by decide +kernel
    intro arrival member address found _
    rw [Option.some.inj (found.symm.trans (clients arrival member))]
  have within := (bounds 0 0 le_rfl).2 keeps
  have twice : budget (.perMinute 2) 0 0 = 2 := by
    norm_num [budget, RateLimit.Policy.perMinute]
  rw [twice] at within
  exact_mod_cast within

/-! A budget of one request a minute. -/

theorem full_bucket_grants :
    ((Bucket.new (.perMinute 1) 0 : Bucket Float).take (.perMinute 1) 0).2 = .granted := by
  decide +kernel

/-- What the first request leaves of it. -/
def spent : Bucket Float := ((Bucket.new (.perMinute 1) 0).take (.perMinute 1) 0).1

theorem spent_refuses : (spent.take (.perMinute 1) 0).2 ≠ .granted := by
  decide +kernel

theorem first_check (key : String) :
    (Limiter.new (.perMinute 1) : Limiter Float).check key 0 =
      (⟨.perMinute 1, (∅ : Std.HashMap String (Bucket Float)).insert key spent⟩, .granted) := by
  rw [check_spacious (new_spacious _)]
  simp only [Limiter.new, Std.HashMap.getElem?_empty, Option.getD_none, full_bucket_grants]
  rfl

theorem second_check (key asked : String) :
    (((Limiter.new (.perMinute 1) : Limiter Float).check key 0).1.check asked 0).2 = .granted ↔
      asked ≠ key := by
  have few : ((Limiter.new (.perMinute 1) : Limiter Float).check key 0).1.tracked <
      trackedBound := by
    rw [first_check, Limiter.tracked, Std.HashMap.size_insert, Std.HashMap.size_empty]
    simp [trackedBound]
  rw [check_spacious few, first_check]
  simp only [Std.HashMap.getElem?_insert, Std.HashMap.getElem?_empty]
  by_cases same : key = asked
  · simp [same, spent_refuses]
  · simp [same, full_bucket_grants, Ne.symm same]

/-- A client that has used up its budget gets a second one in the other notation of its address,
though the allowlist knows it in both. -/
theorem second_notation_second_budget :
    let service := newService true (.new [.v4 0x0a000000 8] false) (.perMinute 1)
    let plain := ForwardedClient.throughProxy (Text.utf8 "10.0.0.5")
    let carried := ForwardedClient.throughProxy (Text.utf8 "::ffff:10.0.0.5")
    plain.client true = some (.v4 0x0a000005) ∧
      carried.client true = some (.carrying 0x0a000005) ∧
      (Address.carrying 0x0a000005).canonical = (Address.v4 0x0a000005).canonical ∧
      service.Allows plain ∧ service.Allows carried ∧
      plain.clientKey true = "10.0.0.5" ∧ carried.clientKey true = "::ffff:10.0.0.5" ∧
      service.Grants plain 0 ∧
      (service.limited plain 0).Grants carried 0 ∧
      ¬ (service.limited plain 0).Grants plain 0 := by
  intro service plain carried
  have plainKey : plain.clientKey true = "10.0.0.5" := by decide +kernel
  have carriedKey : carried.clientKey true = "::ffff:10.0.0.5" := by decide +kernel
  refine ⟨by decide +kernel, by decide +kernel, rfl, ?_, ?_, plainKey, carriedKey, ?_, ?_, ?_⟩
  · exact Service.allows_client.mpr (by decide +kernel)
  · exact Service.allows_client.mpr (by decide +kernel)
  · exact congrArg Prod.snd (first_check (plain.clientKey true))
  · refine (second_check (plain.clientKey true) (carried.clientKey true)).mpr ?_
    rw [plainKey, carriedKey]
    decide
  · exact fun granted => (second_check _ (plain.clientKey true)).mp granted rfl

end Http
end SecretBroker
