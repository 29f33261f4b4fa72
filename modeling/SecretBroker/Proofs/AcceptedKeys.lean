import SecretBroker.Http.Service
import SecretBroker.Proofs.AcceptedSettings
import SecretBroker.Proofs.AccessKey
import SecretBroker.Proofs.LastingSpans

/-!
Which keys open the service. Settings are accepted with every key that has enough bytes. A header
can carry the bytes of keys in other scripts than ASCII, but then it is not read as a text, and no
other header shows such a key.
-/

namespace SecretBroker

def Text.isAscii (text : String) : Bool := text.toList.all (·.toNat < 0x80)

namespace Http

namespace HeaderValue

theorem visible_iff (byte : UInt8) :
    isVisible byte = true ↔ isByte byte = true ∧ byte.toNat < 0x80 := by
  simp only [isVisible, isByte, Bool.or_eq_true, Bool.and_eq_true, beq_iff_eq, bne_iff_ne, ne_eq,
    decide_eq_true_eq, ← UInt8.toNat_inj, UInt8.le_iff_toNat_le, UInt8.lt_iff_toNat_lt,
    UInt8.reduceToNat]
  omega

theorem ascii_of_visible {text : String} (visible : (Text.utf8 text).all isVisible = true) :
    Text.isAscii text = true := by
  -- The text is the one that its bytes are read as, so its characters are theirs.
  have same := Text.utf8_injective (utf8_characters (Text.utf8 text) visible)
  rw [Text.isAscii, ← same, String.toList_ofList, List.all_map, List.all_eq_true]
  intro byte member
  have small := visible_ascii (List.all_eq_true.mp visible byte member)
  simpa [character_toNat] using small

theorem visible_of_ascii {text : String} (ascii : Text.isAscii text = true)
    (legal : (Text.utf8 text).all isByte = true) : (Text.utf8 text).all isVisible = true := by
  rw [List.all_eq_true] at legal ⊢
  intro byte member
  refine (visible_iff byte).mpr ⟨legal byte member, ?_⟩
  rw [Text.utf8_chars, List.mem_flatMap] at member
  obtain ⟨c, inside, encoded⟩ := member
  have small : c.toNat < 0x80 := of_decide_eq_true (List.all_eq_true.mp ascii c inside)
  rw [Text.utf8_ascii c small, List.mem_singleton] at encoded
  subst encoded
  rw [UInt8.toNat_ofNat', Nat.mod_eq_of_lt (by omega)]
  exact small

end HeaderValue

/-- The header that carries a key in the form that is asked for. -/
def bearer (key : String) : HeaderValue := Text.utf8 "Bearer " ++ Text.utf8 key

theorem bearer_eq (key : String) : bearer key = Text.utf8 "Bearer" ++ 0x20 :: Text.utf8 key := by
  rw [bearer, ← Text.utf8_append]
  exact utf8_space "Bearer" key

theorem bearer_visible (key : String) :
    (bearer key).all HeaderValue.isVisible = (Text.utf8 key).all HeaderValue.isVisible := by
  have scheme : (Text.utf8 "Bearer ").all HeaderValue.isVisible = true := by decide +kernel
  rw [bearer, List.all_append, scheme, Bool.true_and]

theorem bearer_shows {key : String} (visible : (Text.utf8 key).all HeaderValue.isVisible = true) :
    keyFault? ⟨key⟩ (some (bearer key)) = none := by
  refine (key_shown _ _).mpr ⟨bearer key, rfl, ?_, "Bearer", by decide, bearer_eq key⟩
  rw [bearer_visible]
  exact visible

theorem keyFault_unread (key : Secret) {value : HeaderValue} (filled : value ≠ [])
    (unread : value.text? = none) : keyFault? key (some value) = some .form := by
  cases value with
  | nil => exact absurd rfl filled
  | cons first rest => simp [keyFault?, unread]

/-- A key that a header can carry is taken from it just if it is ASCII. -/
theorem keyFault_bearer {key : String} (legal : (Text.utf8 key).all HeaderValue.isByte = true) :
    keyFault? ⟨key⟩ (some (bearer key)) = if Text.isAscii key then none else some .form := by
  by_cases ascii : Text.isAscii key = true
  · rw [if_pos ascii]
    exact bearer_shows (HeaderValue.visible_of_ascii ascii legal)
  · rw [if_neg ascii]
    have hidden : (bearer key).all HeaderValue.isVisible = false := by
      rw [bearer_visible, ← Bool.not_eq_true]
      intro visible
      exact ascii (HeaderValue.ascii_of_visible visible)
    apply keyFault_unread _ _ (HeaderValue.text_hidden _ hidden)
    rw [bearer_eq]
    simp

/-- Some header shows a key just if the bytes of the key are visible. -/
theorem key_openable (key : String) :
    (∃ header, keyFault? ⟨key⟩ header = none) ↔
      (Text.utf8 key).all HeaderValue.isVisible = true := by
  constructor
  · rintro ⟨header, shown⟩
    obtain ⟨value, _, visible, scheme, _, bytes⟩ := (key_shown _ header).mp shown
    rw [bytes, List.all_append, List.all_cons, Bool.and_eq_true, Bool.and_eq_true] at visible
    exact visible.2.2
  · intro visible
    exact ⟨_, bearer_shows visible⟩

/-- What becomes of the key of accepted settings in the service that they make. A request of an
admitted client whose header carries it passes if the key is ASCII, and is turned away for the form
of its header otherwise; and then no header at all passes. -/
theorem accepted_key_opens {found : Settings.Variables} {settings : Settings}
    (accepted : Settings.read found = .ok settings) (resolver : Resolver) (allowlist : Allowlist) :
    let policy := (Service.ofSettings settings resolver allowlist).policy
    ∃ key, found.given.text? "api_key" = some key ∧
      ((Text.utf8 key).all HeaderValue.isByte = true →
        (∀ request : Request, request.header? "authorization" = some (bearer key) →
          keyFault? policy.apiKey (request.header? "authorization") =
            (if Text.isAscii key then none else some .form) ∧
          (allowlist.admitsClient (request.client policy.trustForwarded) = true →
            accessFault? allowlist policy.apiKey policy.trustForwarded request =
              if Text.isAscii key then none
              else some (.apiKey, .unauthorized "invalid authorization header format"))) ∧
        ((∃ header, keyFault? policy.apiKey header = none) ↔ Text.isAscii key = true)) := by
  intro policy
  refine ⟨settings.security.apiKey.reveal,
    Settings.typed_key (Settings.read_ok.mp accepted).2.1, ?_⟩
  intro legal
  constructor
  · intro request carries
    have taken : keyFault? policy.apiKey (some (bearer settings.security.apiKey.reveal)) =
        if Text.isAscii settings.security.apiKey.reveal then none else some .form :=
      keyFault_bearer legal
    rw [carries]
    refine ⟨taken, ?_⟩
    intro admitted
    rw [accessFault?, admitted, carries, taken]
    by_cases ascii : Text.isAscii settings.security.apiKey.reveal = true
    · simp [ascii]
    · simp [ascii, KeyFault.reason]
  · refine (key_openable _).trans ?_
    exact ⟨HeaderValue.ascii_of_visible, fun ascii => HeaderValue.visible_of_ascii ascii legal⟩

/-- A key, a vault and a session to reach it with; all else by default. -/
def keyVariables (key : String) : Settings.Variables :=
  [("API_KEY", key), ("VAULTWARDEN_URL", "https://vault.example.com"),
    ("VAULTWARDEN_ACCESS_TOKEN", "session")]

theorem ascii_key_opens :
    ∃ settings, Settings.read (keyVariables "0123456789abcdef0123456789abcdef") = .ok settings ∧
      ∀ request : Request,
        request.header? "authorization" = some (bearer "0123456789abcdef0123456789abcdef") →
          accessFault? (.new [] false) settings.security.apiKey settings.security.trustForwarded
            request = none := by
  have accepted :
      (Settings.read (keyVariables "0123456789abcdef0123456789abcdef")).toOption.map
        (fun _ => ()) = some () := by decide +kernel
  obtain ⟨settings, accepted, _⟩ := exists_of_toOption accepted
  refine ⟨settings, accepted, ?_⟩
  intro request carries
  obtain ⟨key, given, opens⟩ := accepted_key_opens accepted (.start .zero 0) (.new [] false)
  have same : (keyVariables "0123456789abcdef0123456789abcdef").given.text? "api_key" =
      some "0123456789abcdef0123456789abcdef" := by decide +kernel
  obtain rfl := Option.some.inj (same.symm.trans given)
  exact ((opens (by decide +kernel)).1 request carries).2 rfl

/-- Sixteen letters that take two bytes each make a key that is long enough, and the header that
carries it is refused. -/
theorem accented_key_locks_out :
    ∃ settings, Settings.read (keyVariables "éééééééééééééééé") = .ok settings ∧
      settings.security.apiKey = ⟨"éééééééééééééééé"⟩ ∧
      (Text.utf8 "éééééééééééééééé").all HeaderValue.isByte = true ∧
      keyFault? settings.security.apiKey (some (bearer "éééééééééééééééé")) = some .form := by
  have accepted :
      (Settings.read (keyVariables "éééééééééééééééé")).toOption.map (·.security.apiKey) =
        some ⟨"éééééééééééééééé"⟩ := by decide +kernel
  obtain ⟨settings, accepted, key⟩ := exists_of_toOption accepted
  refine ⟨settings, accepted, key, by decide +kernel, ?_⟩
  rw [key]
  decide +kernel

end Http
end SecretBroker
