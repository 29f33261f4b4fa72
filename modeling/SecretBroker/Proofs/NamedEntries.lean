import SecretBroker.Proofs.ServiceFailures

/-!
Which entry of a listing a lookup goes by. Of the entries that have exactly the name it is the first,
and nothing else in the listing has a say: not the entries of other names or of none, and not a later
one of the same name, even if only that has a value.
-/

namespace SecretBroker

/-- The first entry of a list to have a name. -/
def FirstNamed (name : String) (entries : List Entry) (first : Entry) : Prop :=
  first.name = some name ∧ ∃ before after, entries = before ++ first :: after ∧
    ∀ entry ∈ before, entry.name ≠ some name

theorem LookupName.filled {name : String} (named : LookupName.fault? name = none) : name ≠ "" := by
  rintro rfl
  cases named

namespace Entry

theorem nameOrEmpty_eq {name : String} (filled : name ≠ "") (entry : Entry) :
    entry.nameOrEmpty = name ↔ entry.name = some name := by
  cases given : entry.name with
  | none => simpa [nameOrEmpty, given] using filled.symm
  | some text => simp [nameOrEmpty, given]

theorem find_named_iff {name : String} (filled : name ≠ "") (entries : List Entry) (first : Entry) :
    entries.find? (·.nameOrEmpty = name) = some first ↔ FirstNamed name entries first := by
  simp only [List.find?_eq_some_iff_append, FirstNamed, decide_eq_true_eq, Bool.not_eq_true',
    decide_eq_false_iff_not, nameOrEmpty_eq filled]

theorem find_unnamed_iff {name : String} (filled : name ≠ "") (entries : List Entry) :
    entries.find? (·.nameOrEmpty = name) = none ↔ ∀ entry ∈ entries, entry.name ≠ some name := by
  simp only [List.find?_eq_none, decide_eq_true_eq, nameOrEmpty_eq filled]

end Entry

theorem FirstNamed.unique {name : String} (filled : name ≠ "") {entries : List Entry}
    {first other : Entry} (one : FirstNamed name entries first)
    (another : FirstNamed name entries other) : first = other := by
  have found := (Entry.find_named_iff filled entries first).mpr one
  rw [(Entry.find_named_iff filled entries other).mpr another] at found
  exact (Option.some.inj found).symm

namespace Api

variable {name : String} {entries : List Entry}

theorem valueNamed_ok_iff (filled : name ≠ "") {value : Secret} :
    valueNamed name entries = .ok value ↔
      ∃ first, FirstNamed name entries first ∧ first.listedValue = some value.reveal := by
  simp only [valueNamed, ← Entry.find_named_iff filled]
  cases entries.find? (·.nameOrEmpty = name) with
  | none => simp
  | some first =>
      obtain ⟨text⟩ := value
      cases listed : first.listedValue <;> simp [listed]

theorem valueNamed_notFound_iff (filled : name ≠ "") :
    valueNamed name entries = .error (.notFound name) ↔
      ∀ entry ∈ entries, entry.name ≠ some name := by
  rw [valueNamed, ← Entry.find_unnamed_iff filled]
  cases entries.find? (·.nameOrEmpty = name) with
  | none => simp
  | some first => cases listed : first.listedValue <;> simp [listed]

theorem valueNamed_noValue_iff (filled : name ≠ "") :
    valueNamed name entries = .error (.noValue name) ↔
      ∃ first, FirstNamed name entries first ∧ first.listedValue = none := by
  simp only [valueNamed, ← Entry.find_named_iff filled]
  cases entries.find? (·.nameOrEmpty = name) with
  | none => simp
  | some first => cases listed : first.listedValue <;> simp [listed]

theorem valueNamed_congr (filled : name ≠ "") {first : Entry}
    (one : FirstNamed name entries first) {others : List Entry}
    (other : FirstNamed name others first) : valueNamed name entries = valueNamed name others := by
  simp only [valueNamed, (Entry.find_named_iff filled _ _).mpr one,
    (Entry.find_named_iff filled _ _).mpr other]

/-- The lookup comes by a listing of these entries. -/
def Visit.Lists (visit : Visit) (entries : List Entry) : Prop :=
  ∃ token, visit.token? = some (.ok token) ∧ listed (visit.listing token) = .ok entries

theorem Visit.answer_listed {visit : Visit} (named : LookupName.fault? name = none)
    (lists : visit.Lists entries) : visit.answer? name = some (valueNamed name entries) := by
  obtain ⟨token, served, decoded⟩ := lists
  rw [Visit.answer?, named, served]
  change some (listed (visit.listing token) >>= valueNamed name) = _
  rw [decoded]
  rfl

/-- A lookup of a good name that gets a listing, of any length, comes to the value of the first entry
of exactly that name; it is not found if there is no such entry, and has no value if the first one has
none. Listings with the same first entry of the name come to the same, whatever else they hold and in
whatever order. A name that is no good is turned away with nothing done: no call is made. The lookup of
a rehearsal is one of these. -/
theorem first_of_name_decides (name : String) :
    (∀ (visit : Visit) (entries : List Entry), LookupName.fault? name = none → visit.Lists entries →
      (∀ value, visit.answer? name = some (.ok value) ↔
        ∃ first, FirstNamed name entries first ∧ first.listedValue = some value.reveal) ∧
      (visit.answer? name = some (.error (.notFound name)) ↔
        ∀ entry ∈ entries, entry.name ≠ some name) ∧
      (visit.answer? name = some (.error (.noValue name)) ↔
        ∃ first, FirstNamed name entries first ∧ first.listedValue = none)) ∧
    (∀ (visit visitor : Visit) (entries others : List Entry) (first : Entry),
      LookupName.fault? name = none → visit.Lists entries → visitor.Lists others →
      FirstNamed name entries first → FirstNamed name others first →
        visit.answer? name = visitor.answer? name) ∧
    (∀ fault, LookupName.fault? name = some fault →
      (∀ visit : Visit, visit.answer? name = some (.error fault.error)) ∧
      ∀ run : Rehearsal.Exchanges, run.fetch name = (run, some (.error fault.error))) ∧
    ∀ run : Rehearsal.Exchanges, (run.fetch name).2 = run.visit.answer? name := by
  refine ⟨?_, ?_, ?_, fun run => run.fetch_visit name⟩
  · intro visit entries named lists
    have filled := LookupName.filled named
    rw [visit.answer_listed named lists]
    simp only [Option.some.injEq]
    exact ⟨fun value => valueNamed_ok_iff filled, valueNamed_notFound_iff filled,
      valueNamed_noValue_iff filled⟩
  · intro visit visitor entries others first named lists listsOthers one other
    rw [visit.answer_listed named lists, visitor.answer_listed named listsOthers,
      valueNamed_congr (LookupName.filled named) one other]
  · intro fault refused
    constructor
    · intro visit
      rw [Visit.answer?, refused]
    · intro run
      rw [Rehearsal.Exchanges.fetch, refused]

/-- The first entry of the name has no value; a later one would have. -/
theorem later_value_ignored :
    let body := "\x7b\"data\": [\x7b\"notes\": \"x\"\x7d, \x7b\"name\": \"A\"\x7d, " ++
      "\x7b\"name\": \"A\", \"notes\": \"y\"\x7d]\x7d"
    let visit : Visit := ⟨"https://vault", ⟨"user", ⟨"secret"⟩⟩, ⟨some ⟨⟨"t"⟩, 1⟩, .free, none⟩, 0, 0,
      fun _ => .none .failed, fun _ => .answer 200 (some (Text.utf8 body))⟩
    let entry (name notes : Option String) : Entry := ⟨none, name, .other 0, none, notes, none⟩
    let entries := [entry none (some "x"), entry (some "A") none, entry (some "A") (some "y")]
    LookupName.fault? "A" = none ∧ visit.Lists entries ∧
      visit.answer? "A" = some (.error (.noValue "A")) := by
  intro body visit entry entries
  have named : LookupName.fault? "A" = none := by decide
  have lists : visit.Lists entries := by
    have callable : (listingCall? "https://vault" ⟨"t"⟩).isSome = true := by decide +kernel
    obtain ⟨call, called⟩ := Option.isSome_iff_exists.mp callable
    have heard : visit.listing ⟨"t"⟩ = .answer 200 (some (Text.utf8 body)) := by
      rw [Visit.listing, called]
    have decoded : (Json.readBytes (Text.utf8 body)).bind Entry.listOfJson = some entries := by
      decide +kernel
    refine ⟨⟨"t"⟩, rfl, ?_⟩
    rw [heard, listed]
    simp [decoded]
  refine ⟨named, lists, ?_⟩
  have decided := ((first_of_name_decides "A").1 visit entries named lists).2.2
  apply decided.mpr
  have first : FirstNamed "A" entries (entry (some "A") none) :=
    ⟨rfl, [entry none (some "x")], [entry (some "A") (some "y")], rfl, by decide⟩
  exact ⟨_, first, by decide⟩

end Api
end SecretBroker
