import CodeGrant.Proofs.Server.Run
import CodeGrant.Proofs.Token.Claims

/-! # Whoever asks as one should gets a token

A known client that asks for a code with a challenge and a resource is sent back with a
code, and whoever shows that code with the verifier of the challenge gets a token
(`Server.flow_complete`).  What happens in between makes no difference
(`Server.grant?_storeAfter_of_kept`): a code stays in the store until somebody redeems it
or it expires, however often it is shown with something wrong.

The token is read off the bytes of the answer, and its claims off the token
(`Exchange.GrantsToken`). -/

namespace CodeGrant

open Http (Request Response)

/-! ## How one asks -/

/-- Whether parameters give these values for these names. -/
def Form.Give (params : Form.Params) (fields : List (String × String)) : Prop :=
  ∀ field ∈ fields, Form.get params field.1 = field.2

/-- A request for a code, written as a query. -/
structure Arrival.AsksFor (a : Arrival) (asked : AuthorizationRequest) : Prop where
  request : a.request.LooksAt .authorization
  query : ∃ params, a.request.target.query = some (Form.encode params) ∧ Form.Give params
    [("client_id", asked.clientId), ("redirect_uri", asked.redirectUri),
      ("response_type", asked.responseType), ("code_challenge", asked.challenge),
      ("code_challenge_method", asked.challengeMethod), ("resource", asked.resource),
      ("state", asked.state), ("scope", asked.scope)]

/-- What a bearer shows, written as a form that is not too long. -/
structure Arrival.Shows (a : Arrival) (shown : TokenRequest) : Prop where
  request : a.request.Posts .token
  form : TokenRequest.hasForm a.request = true
  body : ∃ params, a.request.body = some (Utf8.encode (Form.encode params)) ∧
    (Utf8.encode (Form.encode params)).length ≤ 2097152 ∧ Form.Give params
    [("grant_type", shown.grantType), ("code", shown.code), ("client_id", shown.clientId),
      ("code_verifier", shown.verifier), ("resource", shown.resource),
      ("redirect_uri", shown.redirectUri)]

theorem Arrival.AsksFor.authorization_eq {a : Arrival} {asked : AuthorizationRequest}
    (h : a.AsksFor asked) : a.authorization = asked := by
  obtain ⟨params, hquery, hgive⟩ := h.query
  simp only [Form.Give, List.forall_mem_cons] at hgive
  obtain ⟨hclient, huri, htype, hchallenge, hmethod, hresource, hstate, hscope, -⟩ := hgive
  rw [Arrival.authorization_eq_ofParams hquery, AuthorizationRequest.ofParams, hclient, huri, htype,
    hchallenge, hmethod, hresource, hstate, hscope]

theorem Arrival.Shows.redemption_eq {a : Arrival} {shown : TokenRequest} (h : a.Shows shown) :
    a.redemption = shown := by
  obtain ⟨params, hbody, hlength, hgive⟩ := h.body
  simp only [Form.Give, List.forall_mem_cons] at hgive
  obtain ⟨htype, hcode, hclient, hverifier, hresource, huri, -⟩ := hgive
  rw [Arrival.redemption_eq_ofParams h.form hbody hlength, TokenRequest.ofParams, htype, hcode,
    hclient, hverifier, hresource, huri]

/-- **A known client may have a code.** -/
theorem Arrival.AsksFor.mayHaveCode {a : Arrival} {asked : AuthorizationRequest} {store : Store}
    (h : a.AsksFor asked) (hcheck : asked.check store = .ok ())
    (hsafe : Response.isHeaderSafe asked.redirectUri = true) : a.MayHaveCode store where
  request := h.request
  check := by
    rw [h.authorization_eq]
    exact hcheck
  location := by
    rw [Arrival.location, h.authorization_eq]
    exact (isHeaderSafe_redirectLocation _ _ _).trans hsafe

/-! ## What happens in between -/

/-- **One request leaves a code alone that it neither issues anew nor redeems.** -/
theorem Exchange.Outcome.grant?_after_of_kept {server : Server} {x : Exchange}
    (h : x.Outcome server) {code : String} {grant : Grant}
    (hknown : x.before.grant? code = some grant)
    (hlive : grant.isExpiredAt x.conditions.now = false)
    (hissued : x.HandsOutCode → x.drawnCode ≠ code)
    (hredeemed : x.redemption.code = code → ¬ x.MayHaveToken grant) :
    x.after.grant? code = some grant := by
  cases h with
  | quiet h => rw [h.after, hknown]
  | registers h => rw [h.after, Store.grant?_insertClient, hknown]
  | issues h => rw [h.after, Store.grant?_putCode, if_neg (hissued h.handsOut), hknown]
  | expires h =>
    rw [h.after, Store.grant?_eraseCode, if_neg, hknown]
    rintro rfl
    have := h.known
    rw [hknown] at this
    cases this
    exact absurd (hlive.symm.trans h.expired) (by decide)
  | redeems h =>
    rw [h.after, Store.grant?_eraseCode, if_neg, hknown]
    rintro rfl
    have := h.known
    rw [hknown] at this
    cases this
    exact hredeemed rfl h.toMayHaveToken

/-- **A run leaves a code alone that it neither issues anew nor redeems.** -/
theorem Server.grant?_storeAfter_of_kept (server : Server) {store : Store} {between : List Arrival}
    {code : String} {grant : Grant} (hknown : store.grant? code = some grant)
    (hlive : ∀ c ∈ between, grant.isExpiredAt c.conditions.now = false)
    (hissued : ∀ x ∈ server.run store between, x.HandsOutCode → x.drawnCode ≠ code)
    (hredeemed : ∀ c ∈ between, c.redemption.code = code → ¬ c.MayHaveToken grant) :
    (server.storeAfter store between).grant? code = some grant := by
  induction between generalizing store with
  | nil => exact hknown
  | cons c between ih =>
    obtain ⟨hlive, hlives⟩ := List.forall_mem_cons.mp hlive
    obtain ⟨hissued, hissueds⟩ := List.forall_mem_cons.mp hissued
    obtain ⟨hredeemed, hredeemeds⟩ := List.forall_mem_cons.mp hredeemed
    have hafter := (server.outcome_exchange store c).grant?_after_of_kept hknown hlive hissued
      hredeemed
    exact ih hafter hlives hissueds hredeemeds

/-! ## The whole flow -/

/-- A token is handed out for an hour, and says what it is good for. -/
structure Exchange.GrantsToken (server : Server) (x : Exchange) (resource scope text : String) : Prop
    where
  status : x.response.status = 200
  body : (Json.ofToken text scope).SaidBy x.response.body
  said : ∃ claims : Claims, claims.SaidBy text ∧ claims.issuer = server.tokens.name ∧
    claims.audience = resource ∧ claims.scope = scope ∧
    (x.conditions.signedAt.inCalendar →
      claims.issuedAt.toInt = x.conditions.signedAt.seconds ∧
        claims.expiresAt.toInt = x.conditions.signedAt.seconds + 3600)

/-- A code that is shown as it should be is exchanged for a token, if the key can sign one. -/
theorem Exchange.Redeems.answer {server : Server} {x : Exchange} {grant : Grant}
    (h : x.Redeems server grant) :
    (server.tokens.key.fault? = none →
      ∃ text, x.GrantsToken server grant.resource grant.scope text) ∧
    (server.tokens.key.fault? ≠ none → x.response.status = 500) := by
  constructor
  · intro hkey
    obtain ⟨text, htext⟩ := TokenIssuer.exists_issueAt grant.resource grant.scope
      x.conditions.signedAt hkey
    obtain ⟨hstatus, hbody⟩ := h.success text htext
    refine ⟨text, hstatus, ?_, _, TokenIssuer.claims_of_issueAt htext, rfl, rfl, rfl, fun hsigned => ?_⟩
    · rw [hbody]
      exact Json.saidBy_render _
    · have hasked := Claims.areAsked_issue hsigned server.tokens.name grant.resource grant.scope
      exact ⟨hasked.issuedAt, hasked.expiresAt⟩
  · intro hkey
    obtain ⟨error, herror⟩ := TokenIssuer.exists_error_of_fault grant.resource grant.scope
      x.conditions.signedAt hkey
    exact h.failure error herror

/-- **Whoever asks as one should gets a token.**  A known client is sent back with a code.  Whatever
is asked in the ten minutes in which the code is good, the code is exchanged for a token as soon as
it is shown with the verifier, unless it has been redeemed or was issued anew. -/
theorem Server.flow_complete (server : Server) {store : Store} {client : Client}
    {id uri resource scope state verifier : String} (hclient : store.client? id = some client)
    (huri : uri ∈ client.redirectUris) (hsafe : Response.isHeaderSafe uri = true)
    (hresource : resource ≠ "") {a : Arrival}
    (hasks : a.AsksFor {
      clientId := id
      redirectUri := uri
      responseType := "code"
      challenge := Pkce.challenge verifier
      challengeMethod := "S256"
      resource := resource
      state := state
      scope := scope }) :
    (server.exchange store a).response.status = 302 ∧
      ("location", uri ++ (if '?' ∈ uri.toList then "&" else "?") ++ "code=" ++ a.drawnCode
          ++ (if state = "" then "" else "&state=" ++ Form.encodeText state))
        ∈ (server.exchange store a).response.headers ∧
      ∀ (between : List Arrival) (b : Arrival) (redirectUri : String),
        (∀ c ∈ between,
          c.conditions.now.isAfter (a.conditions.now.addSeconds 600) = false) →
        (∀ x ∈ server.run (server.exchange store a).after between,
          x.HandsOutCode → x.drawnCode ≠ a.drawnCode) →
        (∀ c ∈ between, c.redemption.code = a.drawnCode → ¬ c.MayHaveToken a.drawnGrant) →
        b.Shows {
          grantType := "authorization_code"
          code := a.drawnCode
          clientId := id
          verifier := verifier
          resource := resource
          redirectUri := redirectUri } →
        redirectUri = "" ∨ redirectUri = uri →
        b.conditions.now.isAfter (a.conditions.now.addSeconds 600) = false →
        let x := server.exchange (server.storeAfter (server.exchange store a).after between) b
        (server.tokens.key.fault? = none → ∃ text, x.GrantsToken server resource scope text) ∧
        (server.tokens.key.fault? ≠ none → x.response.status = 500) := by
  have hcheck : AuthorizationRequest.check store
      ⟨id, uri, "code", Pkce.challenge verifier, "S256", resource, state, scope⟩ = .ok () :=
    AuthorizationRequest.check_eq_ok_iff.mpr
      ⟨⟨client, hclient, huri⟩, rfl, Pkce.challenge_ne_empty verifier, rfl, hresource⟩
  have hissues := server.issues_exchange store (hasks.mayHaveCode hcheck hsafe)
  have hgrant : a.drawnGrant = AuthorizationRequest.grant
      ⟨id, uri, "code", Pkce.challenge verifier, "S256", resource, state, scope⟩
      a.conditions.now := by
    rw [Arrival.drawnGrant, hasks.authorization_eq]
  refine ⟨hissues.status, ?_, ?_⟩
  · have hlocation : a.location = redirectLocation uri a.drawnCode state := by
      rw [Arrival.location, hasks.authorization_eq]
    rw [← redirectLocation_eq_append, ← hlocation]
    exact hissues.header
  · intro between b redirectUri hlive hissued hredeemed hshows hredirect hnow
    have hafter : (server.exchange store a).after.grant? a.drawnCode = some a.drawnGrant := by
      rw [hissues.after, Store.grant?_putCode]
      exact if_pos rfl
    rw [hgrant] at hafter hredeemed
    -- The code is in the store behind the first request, and nothing in between takes it away.
    have hknown := server.grant?_storeAfter_of_kept hafter hlive hissued hredeemed
    have htoken : b.MayHaveToken (AuthorizationRequest.grant
        ⟨id, uri, "code", Pkce.challenge verifier, "S256", resource, state, scope⟩
        a.conditions.now) := by
      refine ⟨hshows.request, by rw [hshows.redemption_eq]; rfl, hnow, ?_⟩
      rw [TokenRequest.check_grant_eq_ok_iff, hshows.redemption_eq]
      exact ⟨rfl, hredirect, hresource, rfl, rfl⟩
    have hcode : b.redemption.code = a.drawnCode := by rw [hshows.redemption_eq]
    exact (server.redeems_exchange _ htoken (hcode ▸ hknown)).answer

/-- The verifier of another challenge does not redeem the code of the sample client. -/
theorem Sample.not_mayHaveToken_of_other :
    ¬ (Sample.bearer "other").MayHaveToken Sample.ask.drawnGrant := by
  intro htoken
  obtain ⟨body, hread⟩ := Server.readBody_of_grantType htoken.grantType
  obtain ⟨hbody, hlength⟩ := Option.filter_eq_some_iff.mp hread
  obtain rfl : Utf8.encode (Form.encode (Sample.form "other")) = body := Option.some.inj hbody
  have hcheck := htoken.check
  rw [Arrival.drawnGrant, Sample.authorization_ask, TokenRequest.check_grant_eq_ok_iff,
    Arrival.redemption_eq_ofParams (by decide +kernel) rfl (of_decide_eq_true hlength)] at hcheck
  have hverifier : TokenRequest.verifier (.ofParams (Sample.form "other")) = "other" := by
    simp [TokenRequest.ofParams, Form.get_cons, Sample.form]
  rw [hverifier] at hcheck
  exact absurd hcheck.2.2.2.2 (by decide +kernel)

/-- The sample client gets a token for its code, although somebody has shown the code with another
verifier before. -/
theorem Server.flow_complete_of_sample : ∃ (text : String) (claims : Claims),
    Json.read? (Utf8.encode (Sample.server.exchange
        (Sample.server.storeAfter (Sample.server.exchange (.initial ⟨0, 0⟩) Sample.ask).after
          [Sample.bearer "other"]) (Sample.bearer "verifier")).response.body)
      = some (.object [("access_token", .text text), ("token_type", .text "Bearer"),
        ("expires_in", .int 3600), ("scope", .text "read")]) ∧
      claims.SaidBy text ∧ claims.issuer = "http://localhost:9000" ∧
      claims.audience = "http://localhost:9000/mcp" ∧ claims.scope = "read" ∧
      claims.issuedAt.toInt = 0 ∧ claims.expiresAt.toInt = 3600 := by
  have hasks : Sample.ask.AsksFor Sample.authorization :=
    ⟨(Sample.mayHaveCode_ask ⟨0, 0⟩).request, _, rfl, by
      simp [Form.Give, Form.get_cons, Sample.authorization]⟩
  have hshows : (Sample.bearer "verifier").Shows ⟨"authorization_code", Sample.ask.drawnCode,
      "sample-client", "verifier", "http://localhost:9000/mcp", ""⟩ :=
    ⟨⟨rfl, rfl⟩, by decide +kernel, _, rfl, Sample.length_form, by
      simp [Form.Give, Form.get_cons, Sample.form, Arrival.drawnCode, Sample.ask]⟩
  obtain ⟨-, -, hflow⟩ := flow_complete Sample.server
    (Store.client?_initial ⟨0, 0⟩ "sample-client") (List.mem_singleton.mpr rfl) (by decide)
    (by decide) hasks
  have hissued : ∀ y ∈ Sample.server.run (Sample.server.exchange (.initial ⟨0, 0⟩)
      Sample.ask).after [Sample.bearer "other"], y.HandsOutCode →
        y.drawnCode ≠ Sample.ask.drawnCode := by
    intro y hy hissued
    rw [List.mem_singleton.mp hy] at hissued
    exact absurd hissued.1 (by decide)
  have hother : ∀ c ∈ [Sample.bearer "other"], c.redemption.code = Sample.ask.drawnCode →
      ¬ c.MayHaveToken Sample.ask.drawnGrant := by
    intro c hc _
    rw [List.mem_singleton.mp hc]
    exact Sample.not_mayHaveToken_of_other
  obtain ⟨text, hgrants⟩ := (hflow [Sample.bearer "other"] _ "" (by decide) hissued hother
    hshows (.inl rfl) (by decide)).1 Rsa.fault?_provenKey
  obtain ⟨claims, hsaid, hissuer, haudience, hscope, htimes⟩ := hgrants.said
  obtain ⟨hissuedAt, hexpiresAt⟩ := htimes (by decide)
  have hbody := hgrants.body.read
  rw [Json.ofToken, if_neg (by decide)] at hbody
  exact ⟨text, claims, hbody, hsaid, hissuer, haudience, hscope, hissuedAt, hexpiresAt⟩

end CodeGrant
