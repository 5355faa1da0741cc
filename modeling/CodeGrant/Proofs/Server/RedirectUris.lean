import CodeGrant.Proofs.Server.AuthorizationDecision
import CodeGrant.Proofs.Server.Reachable
import CodeGrant.Proofs.Server.Registration

/-! # Registered redirect URIs

Registration looks at the scheme of a redirect URI only.  Whoever has registered may ask
for a code at each of its redirect URIs, but a URI with a control character cannot stand
in a header and is refused when a code is asked for.  Any other is sent the code, and
finds it in its query unless it has a fragment, behind which the code is then written
(`Server.sends_code_to_registered_uri`). -/

namespace CodeGrant

open Http (Response)

/-- A client asks for a code to be sent to a URI. -/
structure Arrival.AsksAt (a : Arrival) (client : Client) (uri : String) : Prop where
  request : a.request.LooksAt .authorization
  clientId : a.authorization.clientId = client.id
  redirectUri : a.authorization.redirectUri = uri
  responseType : a.authorization.responseType = "code"
  challenge : a.authorization.challenge ≠ ""
  challengeMethod : a.authorization.challengeMethod = "S256"
  resource : a.authorization.resource ≠ ""

namespace Arrival.AsksAt

variable {a : Arrival} {client : Client} {uri : String} {store : Store}

/-- A known client that asks at one of its redirect URIs passes all checks. -/
theorem check (h : a.AsksAt client uri) (hclient : store.client? client.id = some client)
    (huri : uri ∈ client.redirectUris) : a.authorization.check store = .ok () := by
  refine AuthorizationRequest.check_eq_ok_iff.mpr
    ⟨⟨client, ?_, ?_⟩, h.responseType, h.challenge, h.challengeMethod, h.resource⟩
  · rw [h.clientId, hclient]
  · rw [h.redirectUri]
    exact huri

/-- Whether the browser can be sent back depends on the redirect URI. -/
theorem isHeaderSafe_location (h : a.AsksAt client uri) :
    Response.isHeaderSafe a.location = Response.isHeaderSafe uri := by
  rw [Arrival.location, h.redirectUri]
  exact isHeaderSafe_redirectLocation _ _ _

/-- **The code is in the query of the location**, if the redirect URI has no fragment. -/
theorem mem_decode_query (h : a.AsksAt client uri) (huri : '#' ∉ uri.toList) :
    ∃ query, queryOf? a.location = some query ∧
      ("code", a.drawnCode) ∈ Form.decode (Utf8.encode query) := by
  obtain ⟨query, hquery, hdecode⟩ := decode_query_redirectLocation
    a.conditions.draws.isDigits_codeText huri a.authorization.state
  refine ⟨query, ?_, ?_⟩
  · rw [Arrival.location, h.redirectUri]
    exact hquery
  · rw [hdecode]
    exact List.mem_append_right _ List.mem_cons_self

end Arrival.AsksAt

namespace Server

variable (server : Server) {store : Store} {a b : Arrival} {client : Client} {uri : String}

/-- **Whom a registration tells, the store knows.** -/
theorem client?_after_registration (hposts : a.request.Posts .registration)
    (hstatus : (server.exchange store a).response.status = 201)
    (hbody : Json.read? (Utf8.encode (server.exchange store a).response.body)
      = some (.object (client.members server.config))) :
    (server.exchange store a).after.client? client.id = some client := by
  rcases server.exchange_registration_cases store hposts with ⟨hrefused, -⟩ |
    ⟨uris, method, -, -, hafter, ⟨-, -, htold⟩ | ⟨-, hfailed⟩⟩
  · exact absurd (hrefused.symm.trans hstatus) (by decide)
  · have hsame := Option.some.inj (hbody.symm.trans htold.read)
    rw [← Client.document_eq, ← Client.document_eq] at hsame
    obtain rfl := Client.eq_of_render_eq (congrArg Json.render hsame)
    rw [hafter, Store.client?_insertClient, if_pos rfl]
  · exact absurd (hfailed.symm.trans hstatus) (by decide)

/-- **A client is sent its code at each redirect URI that can stand in a header.**  Somebody has
registered and was told so.  Later on the client asks for a code at one of its redirect URIs.  If
the URI has no control character but the tab, the browser is sent back with the code that was just
stored with the record of what was asked, and finds it in the query unless the URI has a fragment.
If it has one, the client is told that its redirect URI is not valid, and no code is stored. -/
theorem sends_code_to_registered_uri {between : List Arrival}
    (hposts : a.request.Posts .registration)
    (hstatus : (server.exchange store a).response.status = 201)
    (hbody : Json.read? (Utf8.encode (server.exchange store a).response.body)
      = some (.object (client.members server.config)))
    (huri : uri ∈ client.redirectUris)
    (hkept : client.id ∉ Run.registered (server.run (server.exchange store a).after between))
    (hasks : b.AsksAt client uri) :
    let y := server.exchange (server.storeAfter (server.exchange store a).after between) b
    (Response.isHeaderSafe uri = true →
      y.response.status = 302 ∧
      (∃ grant : Grant, grant.Records b ∧ y.after = y.before.putCode b.drawnCode grant) ∧
      ∃ location, ("location", location) ∈ y.response.headers ∧
        ('#' ∉ uri.toList → ∃ query, queryOf? location = some query ∧
          ("code", b.drawnCode) ∈ Form.decode (Utf8.encode query))) ∧
    (Response.isHeaderSafe uri = false →
      y.Tells 400 "invalid_redirect_uri" none ∧ y.after = y.before) := by
  intro y
  have hclient : (server.storeAfter (server.exchange store a).after between).client? client.id
      = some client := by
    rw [server.client?_storeAfter_of_notMem hkept]
    exact server.client?_after_registration hposts hstatus hbody
  have hcheck := hasks.check hclient huri
  constructor
  · intro hsafe
    have hsends := server.sendsOn_exchange _ hasks.request hcheck (hasks.redirectUri.symm ▸ hsafe)
    obtain ⟨grant, hrecords, hafter, -⟩ := hsends.stored
    have hlocation := List.mem_of_mem_filter (hsends.location ▸ List.mem_singleton.mpr rfl)
    exact ⟨hsends.status, ⟨grant, hrecords, hafter⟩, b.location, hlocation, hasks.mem_decode_query⟩
  · intro hunsafe
    exact server.tells_of_not_isHeaderSafe _ hasks.request hcheck (hasks.redirectUri.symm ▸ hunsafe)

end Server

/-! ## Three redirect URIs -/

namespace Sample

/-- A client registers one redirect URI. -/
def enrolAt (uri : String) : Arrival where
  conditions := conditions
  request := ⟨"POST", ⟨"/register", none⟩, [],
    some (Utf8.encode (Json.object [("redirect_uris", .texts [uri])]).render)⟩

/-- The client asks for a code to be sent there. -/
def askAt (uri : String) : Arrival where
  conditions := conditions
  request := ⟨"GET", ⟨"/oauth/authorize", some (Form.encode
    [("client_id", conditions.draws.clientIdText), ("redirect_uri", uri), ("response_type", "code"),
      ("code_challenge", "challenge"), ("code_challenge_method", "S256"), ("resource", "r")])⟩, [],
    some []⟩

theorem authorization_askAt (uri : String) : (askAt uri).authorization =
    ⟨conditions.draws.clientIdText, uri, "code", "challenge", "S256", "r", "", ""⟩ := by
  rw [Arrival.authorization_eq_ofParams rfl]
  simp [AuthorizationRequest.ofParams, Form.get_cons]

/-- What the code would stand for. -/
def askedGrant (uri : String) : Grant :=
  ⟨conditions.draws.clientIdText, uri, "challenge", "S256", "r", "",
    conditions.now.addSeconds 600⟩

theorem drawnGrant_askAt (uri : String) : (askAt uri).drawnGrant = askedGrant uri := by
  rw [Arrival.drawnGrant, authorization_askAt]
  rfl

theorem asksAt_askAt (uri : String) :
    (askAt uri).AsksAt (.register conditions [uri] none) uri := by
  have hne : "challenge" ≠ "" ∧ "r" ≠ "" := by decide
  refine ⟨⟨.inl rfl, rfl⟩, ?_, ?_, ?_, ?_, ?_, ?_⟩ <;> rw [authorization_askAt]
  · rfl
  · exact hne.1
  · exact hne.2

/-- Asking for a code registers nobody. -/
theorem notMem_registered_ask (store : Store) (id : String) :
    id ∉ Run.registered (server.run store [ask]) := by
  intro h
  rcases Run.mem_registered_cons.mp h with hdrawn | hnone
  · have hpost : ask.request.method = "POST" :=
      (Exchange.registered?_eq_some_iff.mp hdrawn).1.1.1
    exact absurd hpost (by decide)
  · cases hnone

end Sample

namespace Server

/-- A client registers, somebody else asks for a code, and then the client is sent its own. -/
theorem sends_code_to_registered_uri_of_sample :
    let x := Sample.server.exchange (.initial ⟨0, 0⟩) (Sample.enrolAt "http://a")
    let y := Sample.server.exchange (Sample.server.storeAfter x.after [Sample.ask])
      (Sample.askAt "http://a")
    x.response.status = 201 ∧ y.response.status = 302 ∧
      y.after.grant? (Sample.askAt "http://a").drawnCode = some (Sample.askedGrant "http://a") ∧
      ∃ location query, ("location", location) ∈ y.response.headers ∧
        queryOf? location = some query ∧
        ("code", (Sample.askAt "http://a").drawnCode) ∈ Form.decode (Utf8.encode query) := by
  have hstatus : (Sample.server.exchange (.initial ⟨0, 0⟩)
      (Sample.enrolAt "http://a")).response.status = 201 := by decide +kernel
  have hbody : Json.read? (Utf8.encode
        (Sample.server.exchange (.initial ⟨0, 0⟩) (Sample.enrolAt "http://a")).response.body)
      = some (.object ((Client.register Sample.conditions ["http://a"] none).members .standard)) := by
    have htext : (Sample.server.exchange (.initial ⟨0, 0⟩) (Sample.enrolAt "http://a")).response.body
        = ((Client.register Sample.conditions ["http://a"] none).document .standard).render := by
      decide +kernel
    rw [htext, Json.read?_render, Client.document_eq]
  obtain ⟨hsent, -⟩ := sends_code_to_registered_uri Sample.server ⟨rfl, rfl⟩ hstatus hbody
    (List.mem_singleton.mpr rfl) (Sample.notMem_registered_ask _ _) (Sample.asksAt_askAt "http://a")
  obtain ⟨h302, ⟨grant, hrecords, hafter⟩, location, hlocation, hquery⟩ := hsent (by decide)
  obtain ⟨query, hfound, hcode⟩ := hquery (by decide)
  have hgrant : grant = Sample.askedGrant "http://a" :=
    (Grant.records_iff.mp hrecords).symm.trans (Sample.drawnGrant_askAt "http://a")
  refine ⟨hstatus, h302, ?_, location, query, hlocation, hfound, hcode⟩
  rw [hafter, Store.grant?_putCode, if_pos rfl, hgrant]

/-- **Not every registered redirect URI is sent a code in its query.**  One with a control character
is registered and refused later, and behind a fragment the code is no part of the query. -/
theorem not_every_registered_uri :
    (let x := Sample.server.exchange (.initial ⟨0, 0⟩) (Sample.enrolAt "http://a\x01")
      let y := Sample.server.exchange x.after (Sample.askAt "http://a\x01")
      x.response.status = 201 ∧ y.response.status = 400) ∧
    (let x := Sample.server.exchange (.initial ⟨0, 0⟩) (Sample.enrolAt "http://a#f")
      let y := Sample.server.exchange x.after (Sample.askAt "http://a#f")
      let location := "http://a#f?code=" ++ (Sample.askAt "http://a#f").drawnCode
      x.response.status = 201 ∧ y.response.status = 302 ∧
        ("location", location) ∈ y.response.headers ∧ queryOf? location = none) := by
  constructor
  · have hasks := Sample.asksAt_askAt "http://a\x01"
    have hclient : (Sample.server.exchange (.initial ⟨0, 0⟩)
        (Sample.enrolAt "http://a\x01")).after.client? Sample.conditions.draws.clientIdText
          = some (.register Sample.conditions ["http://a\x01"] none) := by decide +kernel
    refine ⟨by decide +kernel, ?_⟩
    obtain ⟨htells, -⟩ := Sample.server.tells_of_not_isHeaderSafe _ hasks.request
      (hasks.check hclient (List.mem_singleton.mpr rfl)) (hasks.redirectUri.symm ▸ by decide)
    exact htells.goesBy
  · have hasks := Sample.asksAt_askAt "http://a#f"
    have hclient : (Sample.server.exchange (.initial ⟨0, 0⟩)
        (Sample.enrolAt "http://a#f")).after.client? Sample.conditions.draws.clientIdText
          = some (.register Sample.conditions ["http://a#f"] none) := by decide +kernel
    have hlocation : (Sample.askAt "http://a#f").location
        = "http://a#f?code=" ++ (Sample.askAt "http://a#f").drawnCode := by
      rw [Arrival.location, Sample.authorization_askAt]
      decide +kernel
    have hissues := Sample.server.issues_exchange _ ⟨hasks.request,
      hasks.check hclient (List.mem_singleton.mpr rfl),
      hasks.isHeaderSafe_location.trans (by decide)⟩
    exact ⟨by decide +kernel, hissues.status, hlocation ▸ hissues.header, by decide +kernel⟩

end Server

end CodeGrant
