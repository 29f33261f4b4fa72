import SecretBroker.Proofs.ClientLookups
import SecretBroker.Proofs.EntryValues
import SecretBroker.Proofs.NamedEntries

/-!
Whose value a lookup with the client comes to when it has to search: that of the entry which the search
lists first, whatever its name. A lookup in the same listing goes by that entry only if it has the name.
-/

namespace SecretBroker

theorem firstNamed_head {name : String} {first : Entry} {rest : List Entry} :
    FirstNamed name (first :: rest) first ↔ first.name = some name := by
  constructor
  · exact fun named => named.1
  · intro named
    exact ⟨named, [], rest, rfl, by simp⟩

end SecretBroker

namespace SecretBroker.Cli

/-- What a lookup comes to if the exact lookup and the search have these outputs. -/
def searchAnswer (name : String) (session : Secret) (exact found : Output) : Answer Secret :=
  ((fetch name session).play (fun turn => .ok (if turn = 0 then exact else found)) 0).2

variable {name : String} {session : Secret} {exact found : Output} {first : Entry}
  {rest : List Entry}

theorem searchAnswer_eq (good : GoodName name) (failed : exact.exit ≠ some 0) :
    searchAnswer name session exact found = firstFound name found >>= valueOf name := by
  have unsuccessful : exact.success = false :=
    Bool.eq_false_iff.mpr fun success => failed ((success_iff exact).mp success)
  rw [searchAnswer, fetch, lookupFault_eq_none.mpr good]
  change (Dialogue.play _ (if exact.success then _ else _) 1).2 = _
  rw [unsuccessful]
  rfl

theorem searchAnswer_first (good : GoodName name) (failed : exact.exit ≠ some 0)
    (succeeded : found.exit = some 0) (read : Entry.readList found.stdout = some (first :: rest)) :
    searchAnswer name session exact found = valueOf name first := by
  rw [searchAnswer_eq good failed, firstFound_ok.mpr ⟨succeeded, rest, read⟩]
  rfl

/-- After a failed exact lookup, whatever good name is looked up and whatever non-empty list the search
has, the value is that of the first entry of the list, by the client's rule. If that entry has the name,
it is the one that a lookup in the same listing goes by, with the same value where the rules are alike;
otherwise it is not, and an entry of the name, if there is one, stands behind it. -/
theorem search_takes_first (name : String) (session : Secret) (exact found : Output) (first : Entry)
    (rest : List Entry) (good : GoodName name) (failed : exact.exit ≠ some 0)
    (succeeded : found.exit = some 0) (read : Entry.readList found.stdout = some (first :: rest)) :
    (∀ value, searchAnswer name session exact found = .ok value ↔
      first.clientValue = some value.reveal) ∧
    (searchAnswer name session exact found = .error (.noValue name) ↔ first.clientValue = none) ∧
    (first.name = some name → FirstNamed name (first :: rest) first ∧
      (first.Alike → ∀ value, Api.valueNamed name (first :: rest) = .ok value →
        searchAnswer name session exact found = .ok value)) ∧
    (first.name ≠ some name → ∀ chosen, FirstNamed name (first :: rest) chosen → chosen ≠ first ∧
      chosen ∈ rest) := by
  have filled := LookupName.filled good.1
  rw [searchAnswer_first good failed succeeded read]
  refine ⟨fun value => valueOf_ok, valueOf_noValue, ?_, ?_⟩
  · intro named
    have leads : FirstNamed name (first :: rest) first := firstNamed_head.mpr named
    refine ⟨leads, ?_⟩
    intro alike value listed
    obtain ⟨chosen, chosenNamed, listedValue⟩ := (Api.valueNamed_ok_iff filled).mp listed
    obtain rfl := chosenNamed.unique filled leads
    apply valueOf_ok.mpr
    rw [alike.clientValue_eq, listedValue]
    rfl
  · rintro differs chosen ⟨named, before, after, split, unnamed⟩
    have other : chosen ≠ first := by
      rintro rfl
      exact differs named
    refine ⟨other, ?_⟩
    have member : chosen ∈ first :: rest := by
      rw [split]
      simp
    exact (List.mem_cons.mp member).resolve_left other

/-! A search for a name that lists an entry of another name first. -/

def missed : Output := ⟨"Not found.", "", some 1⟩

def otherFirst : Output :=
  ⟨"[\x7b\"name\": \"api-old\", \"type\": 2, \"notes\": \"old\"\x7d, " ++
    "\x7b\"name\": \"api\", \"type\": 2, \"notes\": \"new\"\x7d]", "", some 0⟩

def secureNote (name notes : String) : Entry :=
  ⟨none, some name, .secureNote, none, some notes, none⟩

theorem otherFirst_read : Entry.readList otherFirst.stdout =
    some [secureNote "api-old" "old", secureNote "api" "new"] := by
  decide +kernel

theorem goodName_api : GoodName "api" := by
  constructor <;> decide

theorem first_of_two_taken :
    GoodName "api" ∧ missed.exit ≠ some 0 ∧ otherFirst.exit = some 0 ∧
    Entry.readList otherFirst.stdout = some [secureNote "api-old" "old", secureNote "api" "new"] ∧
    searchAnswer "api" ⟨"session"⟩ missed otherFirst = .ok ⟨"old"⟩ := by
  have failed : missed.exit ≠ some 0 := by decide
  have taken := search_takes_first "api" ⟨"session"⟩ missed otherFirst _ _ goodName_api failed rfl
    otherFirst_read
  exact ⟨goodName_api, failed, rfl, otherFirst_read, (taken.1 ⟨"old"⟩).mpr rfl⟩

/-- The entry of the name has a value, which a lookup in the listing comes to; the lookup with the
client comes to that of the other entry. -/
theorem other_name_served :
    GoodName "api" ∧ missed.exit ≠ some 0 ∧ otherFirst.exit = some 0 ∧
    Entry.readList otherFirst.stdout = some [secureNote "api-old" "old", secureNote "api" "new"] ∧
    FirstNamed "api" [secureNote "api-old" "old", secureNote "api" "new"]
      (secureNote "api" "new") ∧
    (secureNote "api" "new").clientValue = some "new" ∧
    Api.valueNamed "api" [secureNote "api-old" "old", secureNote "api" "new"] = .ok ⟨"new"⟩ ∧
    searchAnswer "api" ⟨"session"⟩ missed otherFirst = .ok ⟨"old"⟩ ∧
    searchAnswer "api" ⟨"session"⟩ missed otherFirst ≠ .ok ⟨"new"⟩ := by
  have failed : missed.exit ≠ some 0 := by decide
  have named : FirstNamed "api" [secureNote "api-old" "old", secureNote "api" "new"]
      (secureNote "api" "new") :=
    ⟨rfl, [secureNote "api-old" "old"], [], rfl, by decide⟩
  have listed : Api.valueNamed "api" [secureNote "api-old" "old", secureNote "api" "new"] =
      .ok ⟨"new"⟩ :=
    (Api.valueNamed_ok_iff (by decide)).mpr ⟨_, named, rfl⟩
  have served : searchAnswer "api" ⟨"session"⟩ missed otherFirst = .ok ⟨"old"⟩ :=
    (searchAnswer_first goodName_api failed rfl otherFirst_read).trans (valueOf_ok.mpr rfl)
  refine ⟨goodName_api, failed, rfl, otherFirst_read, named, rfl, listed, served, ?_⟩
  rw [served]
  decide

end SecretBroker.Cli
