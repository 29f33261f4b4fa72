import SecretBroker.Allowlist
import SecretBroker.Proofs.HeaderText

/-!
Who a request is from behind a trusted proxy. The first forwarded header names the client as long
as all of it can be read. One byte that is not visible, wherever it stands, and the request counts
as the proxy's own.
-/

namespace SecretBroker.Http

/-- The address that the first part of a forwarded header stands for, blanks around it aside. -/
def HeaderValue.firstAddress? (value : HeaderValue) : Option Net.Address :=
  (HeaderValue.text? (value.takeWhile (· ≠ 0x2c))).bind fun hop => Net.Address.read (Text.trim hop)

/-- The same request on another connection. -/
def Request.withPeer (request : Request) (peer : Option Net.Address) : Request :=
  { request with peer }

namespace ForwardedClient

variable {request : Request} {value : HeaderValue}

theorem character_comma (byte : UInt8) : HeaderValue.character byte = ',' ↔ byte = 0x2c := by
  have comma : HeaderValue.character 0x2c = ',' := rfl
  rw [← comma]
  exact ⟨HeaderValue.character_injective, congrArg _⟩

/-- Cutting the text at its first comma is cutting the bytes there. -/
theorem first_hop_visible (visible : value.all HeaderValue.isVisible = true) :
    Net.Address.read (firstHop (String.ofList (value.map HeaderValue.character))) =
      value.firstAddress? := by
  have partVisible : (value.takeWhile (· ≠ 0x2c)).all HeaderValue.isVisible = true := by
    rw [List.all_eq_true] at visible ⊢
    exact fun byte member => visible byte (List.takeWhile_sublist _ |>.subset member)
  have cut : (value.map HeaderValue.character).takeWhile (· ≠ ',') =
      (value.takeWhile (· ≠ 0x2c)).map HeaderValue.character := by
    rw [List.takeWhile_map]
    simp [Function.comp_def, character_comma]
  rw [HeaderValue.firstAddress?, HeaderValue.text_visible _ partVisible, firstHop,
    String.toList_ofList, cut, Option.bind_some]

theorem client_visible (forwarded : request.header? "x-forwarded-for" = some value)
    (visible : value.all HeaderValue.isVisible = true) :
    request.client true = value.firstAddress? := by
  have hops := HeaderValue.text_visible value visible
  simp only [Request.client, Request.forwarded?, forwarded, Option.bind_some, hops, if_true]
  exact first_hop_visible visible

theorem client_hidden (forwarded : request.header? "x-forwarded-for" = some value)
    (hidden : value.all HeaderValue.isVisible = false) : request.client true = request.peer := by
  simp [Request.client, Request.forwarded?, forwarded, HeaderValue.text_hidden value hidden]

theorem client_forwarded (forwarded : request.header? "x-forwarded-for" = some value)
    (peer : Option Net.Address) :
    (request.withPeer peer).client true =
      if value.all HeaderValue.isVisible then value.firstAddress? else peer := by
  have again : (request.withPeer peer).header? "x-forwarded-for" = some value := forwarded
  by_cases visible : value.all HeaderValue.isVisible = true
  · rw [if_pos visible]
    exact client_visible again visible
  · rw [if_neg visible]
    exact client_hidden again (Bool.eq_false_iff.mpr visible)

theorem admits_restricted (allowlist : Allowlist) (restricted : allowlist.isRestricted = true)
    (client : Option Net.Address) :
    allowlist.admitsClient client = client.any allowlist.admits := by
  simp [Allowlist.admitsClient, restricted]

/-- The list that admits nobody but one address. -/
def onlyProxy : Allowlist := .new [.v4 0x0a000001 32] false

/-- Behind a trusted proxy the first forwarded header alone decides who the client is, and
whether a restricted allowlist admits it, just if all its bytes are visible. Otherwise the client
is whoever is at the other end of the connection, and is admitted if that one is. -/
theorem forwarded_client_hides_peer (request : Request) (value : HeaderValue)
    (forwarded : request.header? "x-forwarded-for" = some value) :
    ((∃ client, (client = value.firstAddress? ∨ client = none) ∧
        ∀ peer, (request.withPeer peer).client true = client) ↔
      value.all HeaderValue.isVisible = true) ∧
    ((∀ allowlist : Allowlist, allowlist.isRestricted = true → ∀ peer other,
        allowlist.admitsClient ((request.withPeer peer).client true) =
          allowlist.admitsClient ((request.withPeer other).client true)) ↔
      value.all HeaderValue.isVisible = true) ∧
    (∀ peer, (request.withPeer peer).client true =
      if value.all HeaderValue.isVisible then value.firstAddress? else peer) ∧
    ∀ allowlist : Allowlist, allowlist.isRestricted = true → ∀ peer,
      allowlist.admitsClient ((request.withPeer peer).client true) =
        (if value.all HeaderValue.isVisible then value.firstAddress? else peer).any
          allowlist.admits := by
  have clients := client_forwarded forwarded
  refine ⟨⟨?_, ?_⟩, ⟨?_, ?_⟩, clients, ?_⟩
  · rintro ⟨client, _, same⟩
    by_cases visible : value.all HeaderValue.isVisible = true
    · exact visible
    · -- An unknown peer and a known one would have to be the same client.
      have unknown := (same none).symm.trans (clients none)
      have known := (same (some (.v4 0))).symm.trans (clients (some (.v4 0)))
      rw [if_neg visible] at unknown known
      exact absurd (known.symm.trans unknown) (by simp)
  · intro visible
    exact ⟨value.firstAddress?, Or.inl rfl, fun peer => (clients peer).trans (if_pos visible)⟩
  · intro same
    by_cases visible : value.all HeaderValue.isVisible = true
    · exact visible
    · have admitted := same onlyProxy rfl (some (.v4 0x0a000001)) none
      rw [clients, clients, if_neg visible, if_neg visible] at admitted
      exact absurd admitted (by decide)
  · intro visible allowlist _ peer other
    rw [clients, clients, if_pos visible, if_pos visible]
  · intro allowlist restricted peer
    rw [clients, admits_restricted allowlist restricted]

def throughProxy (value : HeaderValue) : Request :=
  ⟨"GET", ⟨"/secret/A", none⟩, [("x-forwarded-for", value)], some (.v4 0x0a000001)⟩

theorem forwarded_client_named :
    (throughProxy (Text.utf8 " 203.0.113.7 , 10.0.0.1")).client true = some (.v4 0xcb007107) := by
  have forwarded := forwarded_client_hides_peer (throughProxy (Text.utf8 " 203.0.113.7 , 10.0.0.1"))
    (Text.utf8 " 203.0.113.7 , 10.0.0.1") rfl
  exact (forwarded.2.2.1 (some (.v4 0x0a000001))).trans (by decide +kernel)

/-- A header of one letter outside ASCII makes the proxy the client, and admits it. -/
theorem hidden_hop_admits_proxy :
    let request := throughProxy [0xc3, 0xa9]
    HeaderValue.firstAddress? [0xc3, 0xa9] = none ∧
      request.client true = some (.v4 0x0a000001) ∧
      (request.withPeer none).client true = none ∧
      onlyProxy.isRestricted = true ∧
      onlyProxy.admitsClient (request.client true) = true ∧
      onlyProxy.admitsClient ((request.withPeer none).client true) = false := by
  decide +kernel

end ForwardedClient
end SecretBroker.Http
