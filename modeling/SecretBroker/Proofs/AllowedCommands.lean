import Mathlib.Data.List.Forall2
import SecretBroker.Cli.Command

/-!
Which commands of the client may run. The argument lists are of eight forms, said here without the
table that the check goes through. Only a value that cannot be taken for a flag may stand in a place
that is left to the caller, so every flag in an allowed command is one that its form has there.
-/

namespace SecretBroker

theorem Text.isControl_iff (c : Char) :
    isControl c = true ↔ ¬ (0x20 ≤ c.toNat ∧ (c.toNat < 0x7f ∨ 0x9f < c.toNat)) := by
  simp only [isControl, Bool.or_eq_true, Bool.and_eq_true, decide_eq_true_eq]
  omega

namespace Argument

/-- A value that may stand among the arguments. -/
structure Proper (value : String) : Prop where
  filled : value ≠ ""
  short : value.length ≤ 255
  plain : ∀ c ∈ value.toList, 0x20 ≤ c.toNat ∧ (c.toNat < 0x7f ∨ 0x9f < c.toNat)
  noFlag : value.toList.head? ≠ some '-'

/-- The check of a value finds no fault exactly in the proper ones. -/
theorem fault_eq_none (value : String) : fault? value = none ↔ Proper value := by
  rw [fault?]
  split
  · rename_i empty
    exact iff_of_false nofun fun proper => proper.filled (String.isEmpty_iff.mp empty)
  rename_i filled
  split
  · rename_i long
    exact iff_of_false nofun fun proper => Nat.not_lt_of_le proper.short long
  rename_i short
  split
  · rename_i controls
    obtain ⟨c, member, control⟩ := List.any_eq_true.mp controls
    exact iff_of_false nofun fun proper => (Text.isControl_iff c).mp control (proper.plain c member)
  rename_i plain
  split
  · rename_i flag
    exact iff_of_false nofun fun proper => proper.noFlag flag
  rename_i noFlag
  refine iff_of_true rfl ⟨?_, Nat.le_of_not_lt short, ?_, noFlag⟩
  · exact fun empty => filled (String.isEmpty_iff.mpr empty)
  · intro c member
    by_contra control
    exact plain (List.any_eq_true.mpr ⟨c, member, (Text.isControl_iff c).mpr control⟩)

end Argument

namespace Cli

/-! What the table of forms admits. -/

def Slot.Takes : Slot → String → Prop
  | .fixed token, arg => arg = token
  | .value, arg => Argument.Proper arg

/-- The sub-command and the slots take the arguments, one by one. -/
def Form.Admits (form : Form) (args : List String) : Prop :=
  List.Forall₂ Slot.Takes (.fixed form.subcommand :: form.slots) args

theorem slotsFault_eq_none {slots : List Slot} {args : List String}
    (same : args.length = slots.length) :
    slotsFault? slots args = none ↔ List.Forall₂ Slot.Takes slots args := by
  induction slots generalizing args with
  | nil =>
      obtain rfl := List.length_eq_zero_iff.mp same
      exact iff_of_true rfl .nil
  | cons slot slots ih =>
      cases args with
      | nil => cases same
      | cons arg args =>
          have tail := ih (Nat.succ.inj same)
          rw [List.forall₂_cons, ← tail]
          cases slot with
          | fixed token =>
              change (if arg = token then slotsFault? slots args else some .form) = none ↔
                arg = token ∧ _
              split
              · rename_i fits
                exact (and_iff_right fits).symm
              · rename_i differs
                exact iff_of_false nofun fun fits => differs fits.1
          | value =>
              change _ ↔ Argument.Proper arg ∧ _
              rw [← Argument.fault_eq_none, slotsFault?]
              cases Argument.fault? arg with
              | none => exact (and_iff_right rfl).symm
              | some fault => exact iff_of_false nofun fun fits => nomatch fits.1

theorem formFault_eq_none {form : Form} {args : List String} :
    formFault? form args = none ↔ List.Forall₂ Slot.Takes form.slots args := by
  rw [formFault?]
  split
  · rename_i same
    exact slotsFault_eq_none same
  · rename_i differs
    exact iff_of_false nofun fun fits => differs fits.length_eq.symm

theorem Form.admits_cons {form : Form} {subcommand : String} {args : List String} :
    form.Admits (subcommand :: args) ↔
      form.subcommand = subcommand ∧ formFault? form args = none := by
  rw [formFault_eq_none, Admits, List.forall₂_cons]
  exact and_congr_left fun _ => eq_comm

/-- It is enough that one form fits: a misfit of another one is forgotten. -/
theorem firstFault_eq_none {first : Option CommandFault} {others : List (Option CommandFault)} :
    (if (first :: others).any Option.isNone then none else first) = none ↔
      none ∈ first :: others := by
  split
  · rename_i fits
    obtain ⟨outcome, member, isNone⟩ := List.any_eq_true.mp fits
    exact iff_of_true rfl (Option.isNone_iff_eq_none.mp isNone ▸ member)
  · rename_i misfits
    constructor
    · rintro rfl
      exact List.mem_cons_self
    · intro member
      exact absurd (List.any_eq_true.mpr ⟨none, member, rfl⟩) misfits

theorem settings_allowed_iff (settings : List (String × Secret)) :
    ((settings.find? fun setting => !allowedVariables.contains setting.1).map
      fun setting => CommandFault.setting setting.1) = none ↔
        ∀ setting ∈ settings, setting.1 ∈ allowedVariables := by
  simp

theorem Command.fault_eq_none (command : Command) : command.fault? = none ↔
    (∃ form ∈ Form.allowed, form.Admits command.args) ∧
      ∀ setting ∈ command.env, setting.1 ∈ allowedVariables := by
  rw [fault?, ← settings_allowed_iff]
  cases command.args with
  | nil =>
      refine iff_of_false nofun ?_
      rintro ⟨⟨form, _, admits⟩, _⟩
      cases admits
  | cons subcommand args =>
      have fits : (∃ form ∈ Form.allowed, form.Admits (subcommand :: args)) ↔
          none ∈ (Form.allowed.filter (·.subcommand = subcommand)).map (formFault? · args) := by
        simp only [Form.admits_cons, List.mem_map, List.mem_filter, decide_eq_true_eq, and_assoc]
      rw [fits]
      dsimp only
      cases (Form.allowed.filter (·.subcommand = subcommand)).map (formFault? · args) with
      | nil => exact iff_of_false nofun fun both => nomatch both.1
      | cons first others =>
          rw [← firstFault_eq_none]
          dsimp only
          cases if (first :: others).any Option.isNone then none else first with
          | none => exact (and_iff_right rfl).symm
          | some fault => exact iff_of_false nofun fun both => nomatch both.1

theorem Command.check_ok (command : Command) :
    command.check = .ok () ↔ command.fault? = none := by
  rw [check]
  cases command.fault? with
  | none => exact iff_of_true rfl rfl
  | some fault => exact iff_of_false nofun nofun

/-! The eight forms. -/

/-- The argument lists of commands that may run. -/
inductive Listed : List String → Prop where
  | configServer {url : String} (proper : Argument.Proper url) : Listed ["config", "server", url]
  | status : Listed ["status"]
  | loginApiKey : Listed ["login", "--apikey"]
  | loginPassword {email : String} (proper : Argument.Proper email) :
    Listed ["login", email, "--passwordenv", "BW_PASSWORD"]
  | unlock : Listed ["unlock", "--passwordenv", "BW_PASSWORD", "--raw"]
  | getItem {name : String} (proper : Argument.Proper name) : Listed ["get", "item", name]
  | searchItems {name : String} (proper : Argument.Proper name) :
    Listed ["list", "items", "--search", name]
  | sync : Listed ["sync"]

theorem listed_iff (args : List String) :
    Listed args ↔ ∃ form ∈ Form.allowed, form.Admits args := by
  constructor
  · intro listed
    cases listed with
    | configServer proper =>
        exact ⟨⟨"config", [.fixed "server", .value]⟩, by decide,
          .cons rfl (.cons rfl (.cons proper .nil))⟩
    | status => exact ⟨⟨"status", []⟩, by decide, .cons rfl .nil⟩
    | loginApiKey => exact ⟨⟨"login", [.fixed "--apikey"]⟩, by decide, .cons rfl (.cons rfl .nil)⟩
    | loginPassword proper =>
        exact ⟨⟨"login", [.value, .fixed "--passwordenv", .fixed "BW_PASSWORD"]⟩, by decide,
          .cons rfl (.cons proper (.cons rfl (.cons rfl .nil)))⟩
    | unlock =>
        exact ⟨⟨"unlock", [.fixed "--passwordenv", .fixed "BW_PASSWORD", .fixed "--raw"]⟩,
          by decide, .cons rfl (.cons rfl (.cons rfl (.cons rfl .nil)))⟩
    | getItem proper =>
        exact ⟨⟨"get", [.fixed "item", .value]⟩, by decide,
          .cons rfl (.cons rfl (.cons proper .nil))⟩
    | searchItems proper =>
        exact ⟨⟨"list", [.fixed "items", .fixed "--search", .value]⟩, by decide,
          .cons rfl (.cons rfl (.cons rfl (.cons proper .nil)))⟩
    | sync => exact ⟨⟨"sync", []⟩, by decide, .cons rfl .nil⟩
  · rintro ⟨form, member, admits⟩
    simp only [Form.allowed, List.mem_cons, List.not_mem_nil, or_false] at member
    rcases member with rfl | rfl | rfl | rfl | rfl | rfl | rfl | rfl <;>
      simp only [Form.Admits, List.forall₂_cons_left_iff, List.forall₂_nil_left_iff, Slot.Takes,
        exists_eq_left, exists_and_left] at admits
    · obtain ⟨_, ⟨_, ⟨url, proper, rfl⟩, rfl⟩, rfl⟩ := admits
      exact .configServer proper
    · exact admits ▸ .status
    · exact admits ▸ .loginApiKey
    · obtain ⟨_, ⟨email, proper, rfl⟩, rfl⟩ := admits
      exact .loginPassword proper
    · exact admits ▸ .unlock
    · obtain ⟨_, ⟨_, ⟨name, proper, rfl⟩, rfl⟩, rfl⟩ := admits
      exact .getItem proper
    · obtain ⟨_, ⟨_, ⟨_, ⟨name, proper, rfl⟩, rfl⟩, rfl⟩, rfl⟩ := admits
      exact .searchItems proper
    · exact admits ▸ .sync

theorem check_ok_iff (command : Command) : command.check = .ok () ↔
    Listed command.args ∧ ∀ setting ∈ command.env, setting.1 ∈ allowedVariables := by
  rw [command.check_ok, command.fault_eq_none, listed_iff]

/-- The flags of the forms: the sub-command, the place among the arguments, and the flag. -/
def flags : List (String × Nat × String) :=
  [("login", 1, "--apikey"), ("login", 2, "--passwordenv"), ("unlock", 1, "--passwordenv"),
   ("unlock", 3, "--raw"), ("list", 2, "--search")]

theorem Listed.flag {args : List String} (listed : Listed args) :
    ∀ placed ∈ args.zipIdx, placed.1.toList.head? = some '-' →
      (args.head?.getD "", placed.2, placed.1) ∈ flags := by
  cases listed with
  | configServer proper => simp [proper.noFlag]
  | status => simp
  | loginApiKey => simp [flags]
  | loginPassword proper => simp [proper.noFlag, flags]
  | unlock => simp [flags]
  | getItem proper => simp [proper.noFlag]
  | searchItems proper => simp [proper.noFlag, flags]
  | sync => simp

/-- Commands as they are made, each with the value among its arguments that the caller gives, if it
has such a value. -/
inductive Made : Command → Option String → Prop where
  | configServer (url : String) : Made (.configServer url) (some url)
  | status : Made .status none
  | loginApiKey (clientId : String) (clientSecret : Secret) :
    Made (.loginApiKey clientId clientSecret) none
  | loginPassword (email : String) (password : Secret) :
    Made (.loginPassword email password) (some email)
  | unlock (password : Secret) : Made (.unlock password) none
  | getItem (name : String) (session : Secret) : Made (.getItem name session) (some name)
  | searchItems (name : String) (session : Secret) : Made (.searchItems name session) (some name)
  | sync (session : Secret) : Made (.sync session) none

theorem Made.settings {command : Command} {given : Option String} (made : Made command given) :
    ∀ setting ∈ command.env, setting.1 ∈ allowedVariables := by
  have clientId : Command.clientIdVariable ∈ allowedVariables := by decide
  have clientSecret : Command.clientSecretVariable ∈ allowedVariables := by decide
  have password : Command.passwordVariable ∈ allowedVariables := by decide
  have session : Command.sessionVariable ∈ allowedVariables := by decide
  cases made with
  | configServer | status => exact List.forall_mem_nil _
  | loginApiKey =>
      exact List.forall_mem_cons.mpr ⟨clientId, List.forall_mem_singleton.mpr clientSecret⟩
  | loginPassword | unlock => exact List.forall_mem_singleton.mpr password
  | getItem | searchItems | sync => exact List.forall_mem_singleton.mpr session

theorem Made.listed_iff {command : Command} {given : Option String} (made : Made command given) :
    Listed command.args ↔ ∀ value ∈ given, Argument.Proper value := by
  rw [Cli.listed_iff]
  cases made with
  | configServer url => simp [Command.configServer, Form.allowed, Form.Admits, Slot.Takes]
  | status => simp [Command.status, Form.allowed, Form.Admits, Slot.Takes]
  | loginApiKey clientId clientSecret =>
      simp [Command.loginApiKey, Form.allowed, Form.Admits, Slot.Takes]
  | loginPassword email password =>
      simp [Command.loginPassword, Command.passwordVariable, Form.allowed, Form.Admits, Slot.Takes]
  | unlock password =>
      simp [Command.unlock, Command.passwordVariable, Form.allowed, Form.Admits, Slot.Takes]
  | getItem name session => simp [Command.getItem, Form.allowed, Form.Admits, Slot.Takes]
  | searchItems name session => simp [Command.searchItems, Form.allowed, Form.Admits, Slot.Takes]
  | sync session => simp [Command.sync, Form.allowed, Form.Admits, Slot.Takes]

/-- The check admits the eight forms with the four variables and nothing else. What begins with a
dash in an admitted command is a flag of its form, in its place. A command that is made for one of
the client's uses is admitted exactly when the value that the caller gives for it is proper. -/
theorem allowed_commands_exact :
    (∀ command : Command, command.check = .ok () ↔ Listed command.args ∧
      ∀ setting ∈ command.env,
        setting.1 ∈ ["BW_SESSION", "BW_PASSWORD", "BW_CLIENTID", "BW_CLIENTSECRET"]) ∧
    (∀ command : Command, command.check = .ok () →
      ∀ place arg, command.args[place]? = some arg → arg.toList.head? = some '-' →
        (command.subcommand, place, arg) ∈ flags) ∧
    ∀ command given, Made command given →
      (command.check = .ok () ↔ ∀ value ∈ given, Argument.Proper value) := by
  refine ⟨check_ok_iff, ?_, ?_⟩
  · intro command admitted place arg found dash
    have listed := ((check_ok_iff command).mp admitted).1
    exact listed.flag (arg, place) (List.mk_mem_zipIdx_iff_getElem?.mpr found) dash
  · intro command given made
    rw [check_ok_iff, made.listed_iff]
    exact and_iff_left made.settings

end Cli
end SecretBroker
