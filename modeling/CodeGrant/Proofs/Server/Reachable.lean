import CodeGrant.Proofs.Server.Run

/-! # What the stores of a server look like

Every store that a fresh server comes to is sound (`Store.IsSound`): its codes belong to
clients that it knows, with redirect URIs that are theirs, and its clients are as they
were registered.  A code and the record of its client lie in different maps, so this
holds only because a client stays what it was (`Server.client?_storeAfter_of_notMem`):
an identifier that is drawn is never the one of the sample client, and is not drawn
again. -/

namespace CodeGrant

open Http (Response)

/-- A grant whose client a store knows. -/
structure Grant.IsSound (grant : Grant) (store : Store) : Prop where
  client : ∃ client, store.client? grant.clientId = some client ∧
    grant.redirectUri ∈ client.redirectUris
  challengeMethod : grant.challengeMethod = "S256"
  challenge : grant.challenge ≠ ""
  resource : grant.resource ≠ ""
  redirectUri : Response.isHeaderSafe grant.redirectUri = true

/-- A client as it can be registered. -/
structure Client.IsSound (client : Client) : Prop where
  id : Hex.IsDigits 32 client.id
  uris_ne_nil : client.redirectUris ≠ []
  uris : ∀ uri ∈ client.redirectUris,
    "http://".toList <+: uri.toList ∨ "https://".toList <+: uri.toList
  authMethod : client.authMethod ≠ ""
  secret_eq_empty_iff : client.secret = "" ↔ client.authMethod = "none"
  secret : client.authMethod ≠ "none" → Hex.IsDigits 64 client.secret

/-- A store in which everything is as it should be. -/
structure Store.IsSound (store : Store) : Prop where
  codes : ∀ code grant, store.grant? code = some grant → Hex.IsDigits 64 code
  grants : ∀ code grant, store.grant? code = some grant → grant.IsSound store
  ids : ∀ id client, store.client? id = some client → client.id = id
  clients : ∀ id client, store.client? id = some client → id ≠ "sample-client" → client.IsSound

/-! ## Clients -/

theorem chooseAuthMethod_ne_empty (method : Option String) : chooseAuthMethod method ≠ "" := by
  unfold chooseAuthMethod
  split
  · split
    · decide
    · assumption
  · decide

/-- **What is registered is sound.** -/
theorem Client.isSound_register (conditions : Conditions) {uris : List String}
    (method : Option String) (hnil : uris ≠ []) (hhttp : uris.all isHttpUri = true) :
    (Client.register conditions uris method).IsSound where
  id := conditions.draws.isDigits_clientIdText
  uris_ne_nil := hnil
  uris uri huri := by
    have := List.all_eq_true.mp hhttp uri huri
    rw [isHttpUri, Bool.or_eq_true] at this
    exact this.imp List.isPrefixOf_iff_prefix.mp List.isPrefixOf_iff_prefix.mp
  authMethod := chooseAuthMethod_ne_empty method
  secret_eq_empty_iff := by
    show (if chooseAuthMethod method = noAuth then "" else conditions.draws.clientSecretText) = ""
      ↔ chooseAuthMethod method = noAuth
    split
    · next h => exact ⟨fun _ => h, fun _ => rfl⟩
    · next h =>
      refine ⟨fun hempty => ?_, fun hnone => absurd hnone h⟩
      have hlength := conditions.draws.length_clientSecretText
      rw [hempty] at hlength
      exact absurd hlength (by decide)
  secret hmethod := by
    show Hex.IsDigits 64 (if chooseAuthMethod method = noAuth then "" else
      conditions.draws.clientSecretText)
    rw [if_neg (show chooseAuthMethod method ≠ noAuth from hmethod)]
    exact conditions.draws.isDigits_clientSecretText

/-- Whoever knows as many clients knows the client of the grant. -/
theorem Grant.IsSound.mono {grant : Grant} {s t : Store} (h : grant.IsSound s)
    (hst : ∀ id client, s.client? id = some client → t.client? id = some client) :
    grant.IsSound t where
  client := by
    obtain ⟨client, hclient, huri⟩ := h.client
    exact ⟨client, hst _ _ hclient, huri⟩
  challengeMethod := h.challengeMethod
  challenge := h.challenge
  resource := h.resource
  redirectUri := h.redirectUri

/-! ## One request -/

theorem Exchange.Registers.registered? {x : Exchange} {uris : List String} {method : Option String}
    (h : x.Registers uris method) : x.registered? = some x.conditions.draws.clientIdText :=
  Exchange.registered?_eq_some_iff.mpr ⟨⟨h.request, h.status⟩, rfl⟩

/-- **A client changes only where its identifier is drawn.** -/
theorem Exchange.Outcome.client?_after {server : Server} {x : Exchange} (h : x.Outcome server)
    {id : String} (hid : x.registered? ≠ some id) : x.after.client? id = x.before.client? id := by
  cases h with
  | quiet h => rw [h.after]
  | registers h =>
    rw [h.registered?] at hid
    rw [h.after, Store.client?_insertClient]
    exact if_neg fun heq => hid (congrArg some heq)
  | issues h => rw [h.after, Store.client?_putCode]
  | expires h => rw [h.after, Store.client?_eraseCode]
  | redeems h => rw [h.after, Store.client?_eraseCode]

namespace Store.IsSound

variable {store : Store}

/-- A sound store without a code is sound. -/
theorem eraseCode (h : store.IsSound) (code : String) : (store.eraseCode code).IsSound := by
  have hkept : ∀ other grant, (store.eraseCode code).grant? other = some grant →
      store.grant? other = some grant := by
    intro other grant hgrant
    rw [grant?_eraseCode] at hgrant
    split at hgrant
    · cases hgrant
    · exact hgrant
  exact {
    codes := fun other grant hgrant => h.codes other grant (hkept other grant hgrant)
    grants := fun other grant hgrant =>
      (h.grants other grant (hkept other grant hgrant)).mono fun _ _ hclient => hclient
    ids := h.ids
    clients := h.clients }

/-- A sound grant under a code of the right form keeps a store sound. -/
theorem putCode (h : store.IsSound) {code : String} {grant : Grant} (hcode : Hex.IsDigits 64 code)
    (hgrant : grant.IsSound store) : (store.putCode code grant).IsSound where
  codes other found hfound := by
    rw [grant?_putCode] at hfound
    split at hfound
    · next heq => exact heq ▸ hcode
    · exact h.codes other found hfound
  grants other found hfound := by
    rw [grant?_putCode] at hfound
    split at hfound
    · cases hfound
      exact hgrant.mono fun _ _ hclient => hclient
    · exact (h.grants other found hfound).mono fun _ _ hclient => hclient
  ids := h.ids
  clients := h.clients

/-- A sound client that is new keeps a store sound. -/
theorem insertClient (h : store.IsSound) {client : Client} (hclient : client.IsSound)
    (hnew : store.client? client.id = none) : (store.insertClient client).IsSound where
  codes := h.codes
  grants code grant hgrant := by
    refine (h.grants code grant hgrant).mono fun id found hfound => ?_
    rw [client?_insertClient, if_neg]
    · exact hfound
    · rintro rfl
      rw [hnew] at hfound
      cases hfound
  ids id found hfound := by
    rw [client?_insertClient] at hfound
    split at hfound
    · next heq =>
      cases hfound
      exact heq
    · exact h.ids id found hfound
  clients id found hfound hother := by
    rw [client?_insertClient] at hfound
    split at hfound
    · cases hfound
      exact hclient
    · exact h.clients id found hfound hother

end Store.IsSound

/-- What is asked for by one who may have a code makes a sound grant. -/
theorem AuthorizationRequest.isSound_grant {request : AuthorizationRequest} {store : Store}
    (hcheck : request.check store = .ok ())
    (hsafe : Response.isHeaderSafe request.redirectUri = true) (now : Instant) :
    (request.grant now).IsSound store := by
  obtain ⟨hclient, -, hchallenge, hmethod, hresource⟩ := check_eq_ok_iff.mp hcheck
  exact {
    client := hclient
    challengeMethod := hmethod
    challenge := hchallenge
    resource := hresource
    redirectUri := hsafe }

/-- **One request keeps a store sound, if the identifier that it draws is new.** -/
theorem Exchange.Outcome.isSound_after {server : Server} {x : Exchange} (h : x.Outcome server)
    (hsound : x.before.IsSound)
    (hnew : ∀ id, x.registered? = some id → x.before.client? id = none) : x.after.IsSound := by
  cases h with
  | quiet h => exact h.after ▸ hsound
  | registers h =>
    rw [h.after]
    exact hsound.insertClient (Client.isSound_register _ _ h.uris_ne_nil h.http)
      (hnew _ h.registered?)
  | issues h =>
    rw [h.after]
    have hsafe := (isHeaderSafe_redirectLocation _ _ _).symm.trans h.location
    exact hsound.putCode x.conditions.draws.isDigits_codeText
      (AuthorizationRequest.isSound_grant h.check hsafe _)
  | expires h =>
    rw [h.after]
    exact hsound.eraseCode _
  | redeems h =>
    rw [h.after]
    exact hsound.eraseCode _

/-! ## Runs -/

namespace Run

theorem mem_registered_cons {x : Exchange} {xs : List Exchange} {id : String} :
    id ∈ registered (x :: xs) ↔ x.registered? = some id ∨ id ∈ registered xs := by
  simp [registered, List.mem_filterMap]

/-- Identifiers are given once only if the first is not given again, and so on. -/
theorem nodup_registered_cons_iff {x : Exchange} {xs : List Exchange} :
    (registered (x :: xs)).Nodup ↔
      (∀ id, x.registered? = some id → id ∉ registered xs) ∧ (registered xs).Nodup := by
  rw [registered, List.filterMap_cons]
  cases x.registered? with
  | none => simp [registered]
  | some id => simp [registered]

/-- The identifier of the sample client is never drawn. -/
theorem sample_notMem_registered (xs : List Exchange) : "sample-client" ∉ registered xs := by
  intro h
  obtain ⟨x, -, hx⟩ := List.mem_filterMap.mp h
  have hlength := x.conditions.draws.length_clientIdText
  rw [(Exchange.registered?_eq_some_iff.mp hx).2] at hlength
  exact absurd hlength (by decide)

end Run

namespace Server

variable (server : Server) {store : Store} {arrivals : List Arrival}

/-- **A client that a run does not register is behind it what it was before.** -/
theorem client?_storeAfter_of_notMem {id : String}
    (h : id ∉ Run.registered (server.run store arrivals)) :
    (server.storeAfter store arrivals).client? id = store.client? id := by
  induction arrivals generalizing store with
  | nil => rfl
  | cons a arrivals ih =>
    rw [run_cons, Run.mem_registered_cons, not_or] at h
    rw [storeAfter_cons, ih h.2, (server.outcome_exchange store a).client?_after h.1]
    rfl

/-- **A run keeps a store sound, if the identifiers that it draws are new.** -/
theorem isSound_storeAfter (hsound : store.IsSound)
    (hnodup : (Run.registered (server.run store arrivals)).Nodup)
    (hnew : ∀ id ∈ Run.registered (server.run store arrivals), store.client? id = none) :
    (server.storeAfter store arrivals).IsSound := by
  induction arrivals generalizing store with
  | nil => exact hsound
  | cons a arrivals ih =>
    rw [run_cons] at hnodup hnew
    obtain ⟨hfirst, hrest⟩ := Run.nodup_registered_cons_iff.mp hnodup
    have houtcome := server.outcome_exchange store a
    -- An identifier that is drawn later is not drawn now, so it is still unknown behind this request.
    refine ih (houtcome.isSound_after hsound fun id hid => ?_) hrest fun id hid => ?_
    · exact hnew id (Run.mem_registered_cons.mpr (.inl hid))
    · rw [houtcome.client?_after fun hdrawn => hfirst id hdrawn hid]
      exact hnew id (Run.mem_registered_cons.mpr (.inr hid))

/-- A server starts with a sound store. -/
theorem isSound_initial (start : Instant) : (Store.initial start).IsSound where
  codes code grant h := by
    rw [Store.grant?_initial] at h
    cases h
  grants code grant h := by
    rw [Store.grant?_initial] at h
    cases h
  ids id client h := by
    rw [Store.client?_initial] at h
    split at h
    · next heq =>
      cases h
      exact heq
    · cases h
  clients id client h hother := by
    rw [Store.client?_initial, if_neg (Ne.symm hother)] at h
    cases h

/-- An identifier that is drawn is unknown to a fresh server. -/
theorem client?_initial_of_mem_registered {xs : List Exchange} {id : String} (start : Instant)
    (h : id ∈ Run.registered xs) : (Store.initial start).client? id = none := by
  rw [Store.client?_initial, if_neg]
  rintro rfl
  exact Run.sample_notMem_registered xs h

/-- **Every store that a fresh server comes to is as it should be.**  The sample client is there as
it was from the start, whatever is drawn.  If no identifier is given to two clients, the store is
sound, and a client stays what it was once it is there. -/
theorem reachable_sound (start : Instant) (earlier later : List Arrival) :
    (server.storeAfter (.initial start) (earlier ++ later)).client? "sample-client"
        = some (Client.sample start) ∧
      ((Run.registered (server.run (.initial start) (earlier ++ later))).Nodup →
        (server.storeAfter (.initial start) (earlier ++ later)).IsSound ∧
          ∀ id client, (server.storeAfter (.initial start) earlier).client? id = some client →
            (server.storeAfter (.initial start) (earlier ++ later)).client? id = some client) := by
  refine ⟨?_, fun hnodup => ⟨?_, fun id client hclient => ?_⟩⟩
  · rw [server.client?_storeAfter_of_notMem (Run.sample_notMem_registered _),
      Store.client?_initial, if_pos rfl]
  · exact server.isSound_storeAfter (isSound_initial start) hnodup
      fun id hid => client?_initial_of_mem_registered start hid
  · rw [run_append, Run.registered, List.filterMap_append, List.nodup_append] at hnodup
    rw [storeAfter_append, server.client?_storeAfter_of_notMem]
    · exact hclient
    · -- An identifier that is given later is not known before, but this one is.
      intro hlater
      have hearlier : id ∉ Run.registered (server.run (.initial start) earlier) :=
        fun hid => hnodup.2.2 id hid id hlater rfl
      rw [server.client?_storeAfter_of_notMem hearlier,
        client?_initial_of_mem_registered start hlater] at hclient
      cases hclient

/-- A client is registered and stays while the sample client asks for a code. -/
theorem reachable_sound_of_sample :
    (Run.registered (Sample.server.run (.initial ⟨0, 0⟩) ([Sample.enrol] ++ [Sample.ask]))).Nodup ∧
      (Sample.server.storeAfter (.initial ⟨0, 0⟩) ([Sample.enrol] ++ [Sample.ask])).IsSound ∧
      (Sample.server.storeAfter (.initial ⟨0, 0⟩) ([Sample.enrol] ++ [Sample.ask])).client?
        Sample.conditions.draws.clientIdText
          = some (.register Sample.conditions ["http://a"] none) := by
  have henrolled : (Sample.server.storeAfter (.initial ⟨0, 0⟩) [Sample.enrol]).client?
      Sample.conditions.draws.clientIdText
        = some (.register Sample.conditions ["http://a"] none) := by
    decide +kernel
  have hnodup : (Run.registered
      (Sample.server.run (.initial ⟨0, 0⟩) ([Sample.enrol] ++ [Sample.ask]))).Nodup := by
    refine Run.nodup_registered_cons_iff.mpr ⟨fun id _ hlater => ?_,
      Run.nodup_registered_cons_iff.mpr ⟨fun _ _ => List.not_mem_nil, List.nodup_nil⟩⟩
    rcases Run.mem_registered_cons.mp hlater with hdrawn | hnone
    · exact absurd (Exchange.registered?_eq_some_iff.mp hdrawn).1.1.1 (by decide)
    · cases hnone
  obtain ⟨-, hsound⟩ := reachable_sound Sample.server ⟨0, 0⟩ [Sample.enrol] [Sample.ask]
  exact ⟨hnodup, (hsound hnodup).1, (hsound hnodup).2 _ _ henrolled⟩

end Server

end CodeGrant
