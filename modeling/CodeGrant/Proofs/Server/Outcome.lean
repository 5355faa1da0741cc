import CodeGrant.Proofs.Registration
import CodeGrant.Proofs.Server.Dispatch

/-! # Every exchange is one of five

Each endpoint comes to one of the outcomes of an exchange, and so does what reaches no
endpoint (`Server.outcome_exchange`).  This is the only place where the code of the
endpoints is taken apart. -/

namespace CodeGrant

open Http (Request Response)

namespace Server

variable (server : Server) (store : Store) {a : Arrival}

/-! ## Documents and registration -/

/-- A document that anybody may read is told without any change. -/
theorem isQuiet_exchange_public {e : Endpoint} {document : Json}
    (hpath : a.request.target.path = e.path) (hserves : e.serves a.request.method = true)
    (hcode : e ≠ .authorization) (htoken : e ≠ .token) (hpublic : document ∈ server.publicDocuments)
    (hanswer : server.answer a.conditions store a.request e = (.ok (.json 200 document), store)) :
    (server.exchange store a).IsQuiet server := by
  have hhandle := server.handle_served a.conditions store hpath hserves
  rw [hanswer] at hhandle
  rw [exchange_of_handle hhandle]
  refine Exchange.isQuiet_of_path hpath hcode htoken rfl fun _ => ?_
  rw [body_finish]
  split
  · exact .inl rfl
  · exact .inr ⟨document, hpublic, rfl⟩

/-- **What comes of a registration.** -/
theorem exchange_registration_cases (h : a.request.Posts .registration) :
    let x := server.exchange store a
    (x.response.status = 400 ∧ x.after = store) ∨
    ∃ uris method, uris ≠ [] ∧ uris.all isHttpUri = true ∧
      x.after = store.insertClient (.register a.conditions uris method) ∧
      ((Response.isHeaderSafe server.config.issuer = true ∧ x.response.status = 201 ∧
          (Json.object ((Client.register a.conditions uris method).members server.config)).SaidBy
            x.response.body) ∨
        (Response.isHeaderSafe server.config.issuer = false ∧ x.response.status = 500)) := by
  intro x
  have hhandle := server.handle_served a.conditions store h.2 (h.serves rfl)
  rw [answer] at hhandle
  rcases answerRegistration_cases server.config a.conditions a.request.readBody with
    ⟨error, herror, hanswer⟩ | ⟨uris, method, hnil, hhttp, hanswer⟩
  · rw [hanswer] at hhandle
    have hx : x = _ := exchange_of_handle hhandle
    rw [hx]
    exact .inl ⟨(status_finish _ _).trans herror, rfl⟩
  · rw [hanswer] at hhandle
    have hx : x = _ := exchange_of_handle hhandle
    rw [hx]
    refine .inr ⟨uris, method, hnil, hhttp, rfl, ?_⟩
    cases hissuer : Response.isHeaderSafe server.config.issuer with
    | true =>
      refine .inl ⟨rfl, ?_, ?_⟩
      · rw [status_finish, if_pos rfl]
        rfl
      · rw [if_pos rfl, ← Client.document_eq]
        exact saidBy_finish (by rw [h.1]; decide) rfl
    | false =>
      refine .inr ⟨rfl, ?_⟩
      rw [status_finish, if_neg (by decide)]
      rfl

theorem outcome_registration (h : a.request.Posts .registration) :
    (server.exchange store a).Outcome server := by
  rcases server.exchange_registration_cases store h with ⟨hstatus, hafter⟩ |
    ⟨uris, method, hnil, hhttp, hafter, hanswer⟩
  · exact .quiet (Exchange.isQuiet_of_path h.2 (by decide) (by decide) hafter
      fun h200 => absurd (hstatus.symm.trans h200) (by decide))
  · have hstatus : (server.exchange store a).response.status = 201 ∨
        (server.exchange store a).response.status = 500 :=
      hanswer.imp (fun htold => htold.2.1) fun hfailed => hfailed.2
    exact .registers ⟨h, hnil, hhttp, hafter, hstatus⟩

/-! ## Authorization -/

/-- A refusal at the authorization endpoint changes nothing. -/
theorem isQuiet_exchange_authorization {error : ProtocolError}
    (hpath : a.request.target.path = Endpoint.authorization.path) (hcode : ¬ a.MayHaveCode store)
    (hstatus : error.status = 400) (hhandle : server.handle a.conditions store a.request
      = (finish a.request (.ofResult (.error error)), store)) :
    (server.exchange store a).IsQuiet server := by
  rw [exchange_of_handle hhandle]
  refine Exchange.isQuiet_of_refused rfl ?_ hcode (fun _ _ h => ?_) (fun h => ?_)
  · rw [status_finish]
    exact hstatus
  · exact absurd (hpath.symm.trans h.request.2) (by decide)
  · exact absurd (hpath.symm.trans h.2) (by decide)

theorem answer_authorization (a : Arrival) :
    server.answer a.conditions store a.request .authorization =
      match a.authorization.check store with
      | .error error => (.error error, store)
      | .ok () =>
        if Response.isHeaderSafe a.location then
          (.ok ((Response.empty 302).setHeader "location" a.location),
            store.putCode a.drawnCode a.drawnGrant)
        else (.error (.invalidRedirectUri none), store) :=
  rfl

/-- **Whoever shows all that it takes is issued a code.** -/
theorem issues_exchange (h : a.MayHaveCode store) : (server.exchange store a).Issues := by
  have hhandle := server.handle_served a.conditions store h.request.2 (h.request.serves rfl)
  rw [answer_authorization, h.check] at hhandle
  simp only [if_pos h.location] at hhandle
  rw [exchange_of_handle hhandle]
  refine ⟨h, rfl, ?_, ?_⟩
  · rw [status_finish]
    rfl
  · exact location_mem_finish _ (List.mem_singleton.mpr rfl)

theorem outcome_authorization (h : a.request.LooksAt .authorization) :
    (server.exchange store a).Outcome server := by
  have hhandle := server.handle_served a.conditions store h.2 (h.serves rfl)
  rw [answer_authorization] at hhandle
  cases hcheck : a.authorization.check store with
  | error error =>
    rw [hcheck] at hhandle
    refine .quiet (server.isQuiet_exchange_authorization store h.2 (fun hcode => ?_)
      (AuthorizationRequest.status_of_check hcheck) hhandle)
    rw [hcode.check] at hcheck
    cases hcheck
  | ok _ =>
    rw [hcheck] at hhandle
    by_cases hsafe : Response.isHeaderSafe a.location = true
    · exact .issues (server.issues_exchange store ⟨h, hcheck, hsafe⟩)
    · simp only [if_neg hsafe] at hhandle
      exact .quiet (server.isQuiet_exchange_authorization store h.2
        (fun hcode => hsafe hcode.location) rfl hhandle)

/-! ## Redemption -/

/-- A refusal at the token endpoint changes nothing, unless the code has expired. -/
theorem isQuiet_exchange_token {error : ProtocolError} (hrequest : a.request.Posts .token)
    (htoken : ∀ grant, store.grant? a.redemption.code = some grant → ¬ a.MayHaveToken grant)
    (hstatus : error.status = 400) (hlive : error ≠ .codeExpired)
    (hhandle : server.handle a.conditions store a.request
      = (finish a.request (.ofResult (.error error)), store)) :
    (server.exchange store a).IsQuiet server := by
  rw [exchange_of_handle hhandle]
  refine Exchange.isQuiet_of_refused rfl ?_ (fun h => ?_) htoken (fun _ hexpired => ?_)
  · rw [status_finish]
    exact hstatus
  · exact absurd (hrequest.2.symm.trans h.request.2) (by decide)
  · have hbody : (finish a.request (.ofResult (.error error))).body = error.document.render := by
      rw [body_finish, hrequest.1, if_neg (by decide)]
      rfl
    rw [hbody, ← Exchange.render_codeExpired] at hexpired
    exact hlive (ProtocolError.eq_of_render_eq hexpired)

/-- A bearer whose body was not read asks for no type of grant. -/
theorem readBody_of_grantType (h : a.redemption.grantType = TokenRequest.codeGrantType) :
    ∃ body, a.request.readBody = some body := by
  cases hbody : a.request.readBody with
  | some body => exact ⟨body, rfl⟩
  | none =>
    have hempty : a.redemption.grantType = "" := by
      rw [Arrival.redemption_eq_ofBody, hbody, TokenRequest.ofBody]
      split <;> rfl
    exact absurd (hempty.symm.trans h) (by decide)

theorem answer_of_grantType_ne {body : Bytes} (hbody : a.request.readBody = some body)
    (htype : a.redemption.grantType ≠ TokenRequest.codeGrantType) :
    server.answer a.conditions store a.request .token = (.error .unsupportedGrantType, store) := by
  rw [Arrival.redemption_eq_ofBody, hbody] at htype
  simp only [answer, answerRedemption, hbody]
  exact if_pos htype

/-- Whoever asks for the token of a code gets what the store says. -/
theorem answer_of_grantType_eq {body : Bytes} (hbody : a.request.readBody = some body)
    (htype : a.redemption.grantType = TokenRequest.codeGrantType) :
    server.answer a.conditions store a.request .token =
      match store.redeem a.redemption.code a.conditions.now a.redemption.check with
      | (.error error, store) => (.error error, store)
      | (.ok grant, store) =>
        match server.tokens.issueAt grant.resource grant.scope a.conditions.signedAt with
        | .error error => (.error error.toProtocolError, store)
        | .ok token =>
          (.ok (tokenResponse ⟨token, "Bearer", TokenIssuer.lifetime, grant.scope⟩), store) := by
  have hredemption : a.redemption = TokenRequest.ofBody a.request body := by
    rw [Arrival.redemption_eq_ofBody, hbody]
    rfl
  rw [hredemption] at htype ⊢
  simp only [answer, answerRedemption, hbody]
  exact if_neg (not_not_intro htype)

theorem expires_exchange {body : Bytes} {grant : Grant} (h : a.request.Posts .token)
    (hbody : a.request.readBody = some body)
    (htype : a.redemption.grantType = TokenRequest.codeGrantType)
    (hgrant : store.grant? a.redemption.code = some grant)
    (hexpired : grant.isExpiredAt a.conditions.now = true) :
    (server.exchange store a).Expires grant := by
  have hhandle := server.handle_served a.conditions store h.2 (h.serves rfl)
  rw [server.answer_of_grantType_eq store hbody htype,
    Store.redeem_of_expired hgrant hexpired] at hhandle
  rw [exchange_of_handle hhandle]
  refine ⟨h, hgrant, hexpired, rfl, ?_, ?_⟩
  · rw [status_finish]
    rfl
  · rw [body_finish, h.1, if_neg (by decide)]
    rfl

/-- **Whoever shows all that it takes redeems the code.** -/
theorem redeems_exchange {grant : Grant} (h : a.MayHaveToken grant)
    (hgrant : store.grant? a.redemption.code = some grant) :
    (server.exchange store a).Redeems server grant := by
  obtain ⟨body, hbody⟩ := readBody_of_grantType h.grantType
  have hhandle := server.handle_served a.conditions store h.request.2 (h.request.serves rfl)
  rw [server.answer_of_grantType_eq store hbody h.grantType,
    Store.redeem_of_accepted hgrant h.live h.check] at hhandle
  cases htoken : server.tokens.issueAt grant.resource grant.scope a.conditions.signedAt with
  | error error =>
    -- The code is gone by the time the key turns out not to sign.
    simp only [htoken] at hhandle
    rw [exchange_of_handle hhandle]
    refine ⟨h, hgrant, rfl, fun token hok => ?_, fun _ _ => ?_⟩
    · rw [Exchange.token, htoken] at hok
      cases hok
    · rw [status_finish]
      rfl
  | ok token =>
    simp only [htoken] at hhandle
    rw [exchange_of_handle hhandle]
    refine ⟨h, hgrant, rfl, fun other hok => ⟨?_, ?_⟩, fun error herror => ?_⟩
    · rw [status_finish]
      rfl
    · rw [Exchange.token, htoken] at hok
      cases hok
      rw [body_finish, h.request.1, if_neg (by decide), Response.ofResult, tokenResponse,
        Response.body_setHeader, Response.body_setHeader, Response.json, TokenAnswer.document_eq]
    · rw [Exchange.token, htoken] at herror
      cases herror

theorem outcome_token (h : a.request.Posts .token) :
    (server.exchange store a).Outcome server := by
  -- The cases come in the order in which the endpoint looks at what it is shown.
  have hhandle := server.handle_served a.conditions store h.2 (h.serves rfl)
  cases hbody : a.request.readBody with
  | none =>
    rw [answer, answerRedemption, hbody] at hhandle
    refine .quiet (server.isQuiet_exchange_token store h (fun _ _ htoken => ?_) rfl (by decide)
      hhandle)
    obtain ⟨body, hread⟩ := readBody_of_grantType htoken.grantType
    rw [hbody] at hread
    cases hread
  | some body =>
    by_cases htype : a.redemption.grantType = TokenRequest.codeGrantType
    · rw [server.answer_of_grantType_eq store hbody htype] at hhandle
      cases hgrant : store.grant? a.redemption.code with
      | none =>
        rw [Store.redeem_of_unknown hgrant] at hhandle
        refine .quiet (server.isQuiet_exchange_token store h (fun _ hknown _ => ?_) rfl
          (by decide) hhandle)
        rw [hgrant] at hknown
        cases hknown
      | some grant =>
        cases hexpired : grant.isExpiredAt a.conditions.now with
        | true => exact .expires (server.expires_exchange store h hbody htype hgrant hexpired)
        | false =>
          cases hcheck : a.redemption.check grant with
          | ok _ =>
            exact .redeems (server.redeems_exchange store ⟨h, htype, hexpired, hcheck⟩ hgrant)
          | error error =>
            rw [Store.redeem_of_refused hgrant hexpired hcheck] at hhandle
            refine .quiet (server.isQuiet_exchange_token store h (fun _ hknown htoken => ?_)
              (TokenRequest.status_of_check hcheck) (TokenRequest.ne_codeExpired_of_check hcheck)
              hhandle)
            rw [hgrant] at hknown
            cases hknown
            rw [htoken.check] at hcheck
            cases hcheck
    · rw [server.answer_of_grantType_ne store hbody htype] at hhandle
      exact .quiet (server.isQuiet_exchange_token store h (fun _ _ htoken => htype
        htoken.grantType) rfl (by decide) hhandle)

/-! ## Any request -/

/-- **What one request does.** -/
theorem outcome_exchange (a : Arrival) : (server.exchange store a).Outcome server := by
  by_cases hunserved : ∀ e : Endpoint, a.request.target.path = e.path →
      e.serves a.request.method = false
  · exact .quiet (server.isQuiet_exchange_unserved store hunserved)
  · obtain ⟨e, hpath, hserves⟩ : ∃ e : Endpoint, a.request.target.path = e.path ∧
        e.serves a.request.method = true := by
      simpa using hunserved
    cases e with
    | health =>
      exact .quiet (server.isQuiet_exchange_public store hpath hserves (by decide) (by decide)
        (List.mem_cons_self) rfl)
    | metadata =>
      exact .quiet (server.isQuiet_exchange_public store hpath hserves (by decide) (by decide)
        (List.mem_cons_of_mem _ List.mem_cons_self) rfl)
    | keys =>
      exact .quiet (server.isQuiet_exchange_public store hpath hserves (by decide) (by decide)
        (List.mem_cons_of_mem _ (List.mem_cons_of_mem _ List.mem_cons_self)) rfl)
    | registration => exact server.outcome_registration store (.of_serves hpath hserves rfl)
    | authorization => exact server.outcome_authorization store (.of_serves hpath hserves rfl)
    | token => exact server.outcome_token store (.of_serves hpath hserves rfl)

end Server

end CodeGrant
