import CodeGrant.Proofs.Redemption.FormType
import CodeGrant.Proofs.Server.Decision
import CodeGrant.Proofs.Server.Run
import CodeGrant.Proofs.Token.Compact

/-! # How a request for a token is decided

The token endpoint goes by a table (`tokenRules`), rule by rule: the body must be read and must be a
form that asks for the only type of grant there is; the code must be known and must not have
expired; then the client, the redirect URI, the resource and the verifier must be those of its
grant; and last the token must be signed.  Who passes all rules gets the token
(`Exchange.GetsToken`), and nobody else does (`Server.token_decided`).

What the bearer shows is read from the bytes of the body (`Arrival.shown`).  The code is put back
by each rule between its expiry and the signature, so the table also tells which refusals use the
code up. -/

namespace CodeGrant

open Http (Request Response)

namespace Arrival

/-- What the form in the body shows, if the body is a form. -/
def shown (a : Arrival) : TokenRequest := .ofParams (Form.decode (a.request.body.getD []))

/-- Whether the first header field for the type of the body names a form. -/
def PostsForm (a : Arrival) : Prop :=
  ∃ value, a.request.header? "content-type" = some value ∧ TokenRequest.NamesForm value

end Arrival

/-- The rules of the token endpoint, in order. -/
def tokenRules (server : Server) (store : Store) (a : Arrival) : List Rule :=
  let shown := a.shown
  let fails (p : Grant → Prop) : Prop := ∃ grant, store.grant? shown.code = some grant ∧ p grant
  let used := store.eraseCode shown.code
  [⟨a.request.body = none ∨ ∃ bytes, a.request.body = some bytes ∧ 2097152 < bytes.length,
      400, "invalid_request", none, store⟩,
    ⟨¬ a.PostsForm ∨ shown.grantType ≠ "authorization_code",
      400, "unsupported_grant_type", none, store⟩,
    ⟨store.grant? shown.code = none, 400, "invalid_grant", none, store⟩,
    ⟨fails fun grant => a.conditions.now.isAfter grant.expiresAt = true,
      400, "invalid_grant", some "authorization code expired", used⟩,
    ⟨fails fun grant => shown.clientId ≠ grant.clientId, 400, "invalid_client", none, store⟩,
    ⟨fails fun grant => shown.redirectUri ≠ "" ∧ shown.redirectUri ≠ grant.redirectUri,
      400, "invalid_grant", some "redirect_uri mismatch", store⟩,
    ⟨shown.resource = "", 400, "invalid_request", some "resource parameter required", store⟩,
    ⟨fails fun grant => shown.resource ≠ grant.resource,
      400, "invalid_grant", some "resource mismatch", store⟩,
    ⟨fails fun grant => grant.challenge
        ≠ Base64Url.encode (Sha256.digest (Utf8.encode shown.verifier)),
      400, "invalid_grant", some "PKCE verification failed", store⟩,
    ⟨fails fun grant => ∃ error, server.tokens.issueAt grant.resource grant.scope
        a.conditions.signedAt = .error error,
      500, "server_error", some "failed to issue token", used⟩]

namespace Exchange

/-- A token is handed out for the grant of the code that is shown, not to be kept in a cache, and the
code is gone. -/
structure GetsToken (server : Server) (x : Exchange) : Prop where
  status : x.response.status = 200
  contentType : x.response.HasOnce "content-type" "application/json"
  cacheControl : x.response.HasOnce "cache-control" "no-store"
  pragma : x.response.HasOnce "pragma" "no-cache"
  body : ∃ grant token, x.before.grant? x.shown.code = some grant ∧
    server.tokens.issueAt grant.resource grant.scope x.conditions.signedAt = .ok token ∧
    (Json.ofToken token grant.scope).SaidBy x.response.body
  after : x.after = x.before.eraseCode x.shown.code

end Exchange

/-! ## What is read -/

namespace Arrival

variable {a : Arrival} {bytes : Bytes}

theorem hasForm_iff : TokenRequest.hasForm a.request = true ↔ a.PostsForm := by
  rw [TokenRequest.hasForm, PostsForm]
  cases a.request.header? "content-type" with
  | none => simp
  | some value => simp [TokenRequest.declaresForm_iff]

/-- A form is read for what it shows. -/
theorem redemption_eq_shown (hbody : a.request.readBody = some bytes) (hform : a.PostsForm) :
    a.redemption = a.shown := by
  rw [redemption_eq_ofBody, shown, hbody, Http.Request.body_of_readBody hbody, Option.getD_some,
    TokenRequest.ofBody, if_pos (hasForm_iff.mpr hform)]

/-- What a body shows is what it was written for. -/
theorem shown_eq_ofParams {params : Form.Params}
    (h : a.request.body = some (Utf8.encode (Form.encode params))) :
    a.shown = .ofParams params := by
  rw [shown, h, Option.getD_some, Form.decode_encode]

/-- A body that is no form shows nothing. -/
theorem grantType_of_not_postsForm (hform : ¬ a.PostsForm) : a.redemption.grantType = "" := by
  rw [redemption_eq_ofBody, TokenRequest.ofBody, if_neg fun h => hform (hasForm_iff.mp h)]
  rfl

end Arrival

/-- A challenge is not that of a verifier if it is another text than the digest of the verifier. -/
theorem Pkce.verify_eq_false_iff (verifier text : String) : verify verifier text = false ↔
    text ≠ Base64Url.encode (Sha256.digest (Utf8.encode verifier)) := by
  rw [Bool.eq_false_iff, ne_eq, verify_iff, challenge, eq_comm]

/-! ## What is answered -/

namespace Server

variable (server : Server) (store : Store) {a : Arrival} {bytes : Bytes} {grant : Grant}

/-- A bearer that the store refuses is told why. -/
theorem tells_of_redeem (error : ProtocolError) {after : Store}
    (h : a.request.Posts .token) (hbody : a.request.readBody = some bytes)
    (htype : a.redemption.grantType = TokenRequest.codeGrantType)
    (hredeem : store.redeem a.redemption.code a.conditions.now a.redemption.check
      = (.error error, after)) :
    (server.exchange store a).Tells error.status error.code error.description? ∧
      (server.exchange store a).after = after := by
  have hhandle := server.handle_served a.conditions store h.2 (h.serves rfl)
  rw [server.answer_of_grantType_eq store hbody htype, hredeem] at hhandle
  exact Exchange.tells_of_handle hhandle

/-- A bearer whose token cannot be signed is told so, and the code is gone. -/
theorem tells_of_unsigned {error : IssuerError} {after : Store}
    (h : a.request.Posts .token) (hbody : a.request.readBody = some bytes)
    (htype : a.redemption.grantType = TokenRequest.codeGrantType)
    (hredeem : store.redeem a.redemption.code a.conditions.now a.redemption.check
      = (.ok grant, after))
    (hissue : server.tokens.issueAt grant.resource grant.scope a.conditions.signedAt = .error error) :
    (server.exchange store a).Tells 500 "server_error" (some "failed to issue token") ∧
      (server.exchange store a).after = after := by
  have hhandle := server.handle_served a.conditions store h.2 (h.serves rfl)
  rw [server.answer_of_grantType_eq store hbody htype, hredeem] at hhandle
  simp only [hissue] at hhandle
  exact Exchange.tells_of_handle hhandle

/-- **A bearer that passes gets the token.** -/
theorem getsToken_exchange {token : String} (h : a.request.Posts .token)
    (hbody : a.request.readBody = some bytes)
    (htype : a.redemption.grantType = TokenRequest.codeGrantType)
    (hgrant : store.grant? a.shown.code = some grant)
    (hredeem : store.redeem a.redemption.code a.conditions.now a.redemption.check
      = (.ok grant, store.eraseCode a.shown.code))
    (hissue : server.tokens.issueAt grant.resource grant.scope a.conditions.signedAt = .ok token) :
    (server.exchange store a).GetsToken server := by
  have hhandle := server.handle_served a.conditions store h.2 (h.serves rfl)
  rw [server.answer_of_grantType_eq store hbody htype, hredeem] at hhandle
  simp only [hissue] at hhandle
  rw [exchange_of_handle hhandle]
  refine ⟨status_finish _ _, ?_, ?_, ?_, ⟨grant, token, hgrant, hissue, ?_⟩, rfl⟩
  · exact (((Response.hasOnce_json _ _).setHeader _ (by decide)).setHeader _ (by decide)).finish _
      (by decide)
  · exact ((Response.hasOnce_setHeader _ _ _).setHeader _ (by decide)).finish _ (by decide)
  · exact (Response.hasOnce_setHeader _ _ _).finish _ (by decide)
  · refine saidBy_finish (by rw [h.1]; decide) ?_
    rw [Response.ofResult, tokenResponse, Response.body_setHeader, Response.body_setHeader,
      Response.json, TokenAnswer.document_eq]

/-- **Once the grant is known, it decides.**  Between its expiry and the signature its rules are the
checks of the bearer, in their order. -/
theorem goesBy_drop_tokenRules (h : a.request.Posts .token)
    (hbody : a.request.readBody = some bytes) (hform : a.PostsForm)
    (htype : a.shown.grantType = TokenRequest.codeGrantType)
    (hgrant : store.grant? a.shown.code = some grant) :
    (server.exchange store a).GoesBy ((tokenRules server store a).drop 3)
      ((server.exchange store a).GetsToken server) := by
  have hshown := Arrival.redemption_eq_shown hbody hform
  rw [← hshown] at htype
  have hfails (p : Grant → Prop) :
      (∃ other, store.grant? a.shown.code = some other ∧ p other) ↔ p grant := by
    simp [hgrant]
  refine .cons (fun hexpired => ?_) fun hlive => ?_
  · refine server.tells_of_redeem store .codeExpired h hbody htype ?_
    rw [hshown]
    exact Store.redeem_of_expired hgrant ((hfails _).mp hexpired)
  have hlive : grant.isExpiredAt a.conditions.now = false :=
    Bool.eq_false_iff.mpr fun hexpired => hlive ((hfails _).mpr hexpired)
  have hrefuse (error : ProtocolError) (hcheck : a.shown.check grant = .error error) :
      (server.exchange store a).Tells error.status error.code error.description? ∧
        (server.exchange store a).after = store := by
    refine server.tells_of_redeem store error h hbody htype ?_
    rw [hshown]
    exact Store.redeem_of_refused hgrant hlive hcheck
  have hcheck : a.shown.check grant =
      if a.shown.clientId ≠ grant.clientId then .error (.invalidClient none)
      else if a.shown.redirectUri ≠ "" ∧ a.shown.redirectUri ≠ grant.redirectUri then
        .error .redirectUriMismatch
      else if a.shown.resource = "" then .error .resourceRequired
      else if a.shown.resource ≠ grant.resource then .error .resourceMismatch
      else if Pkce.verify a.shown.verifier grant.challenge = false then .error .verifierMismatch
      else .ok () := rfl
  -- Each check that is passed is struck from the equation.
  refine .cons (fun hclient => ?_) fun hclient => ?_
  · exact hrefuse _ (hcheck.trans (if_pos ((hfails _).mp hclient)))
  rw [if_neg fun hother => hclient ((hfails _).mpr hother)] at hcheck
  refine .cons (fun huri => ?_) fun huri => ?_
  · exact hrefuse _ (hcheck.trans (if_pos ((hfails _).mp huri)))
  rw [if_neg fun hother => huri ((hfails _).mpr hother)] at hcheck
  refine .cons (fun hempty => ?_) fun hempty => ?_
  · exact hrefuse _ (hcheck.trans (if_pos hempty))
  rw [if_neg hempty] at hcheck
  refine .cons (fun hresource => ?_) fun hresource => ?_
  · exact hrefuse _ (hcheck.trans (if_pos ((hfails _).mp hresource)))
  rw [if_neg fun hother => hresource ((hfails _).mpr hother)] at hcheck
  have hverify := Pkce.verify_eq_false_iff a.shown.verifier grant.challenge
  refine .cons (fun hverifier => ?_) fun hverifier => ?_
  · exact hrefuse _ (hcheck.trans (if_pos (hverify.mpr ((hfails _).mp hverifier))))
  rw [if_neg fun hother => hverifier ((hfails _).mpr (hverify.mp hother))] at hcheck
  -- The bearer passes, so the code is gone, whether the token can be signed or not.
  have hredeem : store.redeem a.redemption.code a.conditions.now a.redemption.check
      = (.ok grant, store.eraseCode a.shown.code) := by
    rw [hshown]
    exact Store.redeem_of_accepted hgrant hlive hcheck
  refine .cons (fun hunsigned => ?_) fun hsigned => .nil ?_
  · obtain ⟨error, hissue⟩ := (hfails _).mp hunsigned
    exact server.tells_of_unsigned store h hbody htype hredeem hissue
  · cases hissue : server.tokens.issueAt grant.resource grant.scope a.conditions.signedAt with
    | error error => exact absurd ((hfails _).mpr ⟨error, hissue⟩) hsigned
    | ok token => exact server.getsToken_exchange store h hbody htype hgrant hredeem hissue

/-- **The token endpoint goes by its table.** -/
theorem goesBy_tokenRules (h : a.request.Posts .token) :
    (server.exchange store a).GoesBy (tokenRules server store a)
      ((server.exchange store a).GetsToken server) := by
  have hhandle := server.handle_served a.conditions store h.2 (h.serves rfl)
  refine .cons (fun hunread => ?_) fun hread => ?_
  · rw [answer, answerRedemption, Http.Request.readBody_eq_none_iff.mpr hunread] at hhandle
    exact Exchange.tells_of_handle hhandle
  obtain ⟨bytes, hbody⟩ :=
    Option.ne_none_iff_exists'.mp fun hnone => hread (Http.Request.readBody_eq_none_iff.mp hnone)
  refine .cons (fun htype => ?_) fun htype => ?_
  · have hother : a.redemption.grantType ≠ TokenRequest.codeGrantType := by
      by_cases hform : a.PostsForm
      · rw [Arrival.redemption_eq_shown hbody hform]
        exact htype.resolve_left (not_not_intro hform)
      · rw [Arrival.grantType_of_not_postsForm hform]
        decide
    rw [server.answer_of_grantType_ne store hbody hother] at hhandle
    exact Exchange.tells_of_handle hhandle
  obtain ⟨hform, htype⟩ := not_or.mp htype
  rw [not_not] at hform htype
  refine .cons (fun hunknown => ?_) fun hknown => ?_
  · have hshown := Arrival.redemption_eq_shown hbody hform
    refine server.tells_of_redeem store (.invalidGrant none) h hbody (hshown ▸ htype) ?_
    rw [hshown]
    exact Store.redeem_of_unknown hunknown
  · obtain ⟨grant, hgrant⟩ := Option.ne_none_iff_exists'.mp hknown
    exact server.goesBy_drop_tokenRules store h hbody hform htype hgrant

/-- **A request for a token is decided by the first rule that applies, and only who passes all rules
gets the token.** -/
theorem token_decided (h : a.request.Posts .token) :
    let x := server.exchange store a
    x.GoesBy (tokenRules server store a) (x.GetsToken server) ∧
      (x.response.status = 200 ↔ ∀ rule ∈ tokenRules server store a, ¬ rule.applies) := by
  intro x
  have hgoes := server.goesBy_tokenRules store h
  exact ⟨hgoes, hgoes.status_eq_iff (by decide) fun hgets => hgets.status⟩

end Server

/-! ## Two bearers -/

namespace Sample

/-- A form that shows another resource than that of the grant, and no verifier. -/
def muddledForm : Form.Params :=
  [("grant_type", "authorization_code"), ("code", conditions.draws.codeText),
    ("client_id", "sample-client"), ("resource", "http://b")]

/-- A bearer shows that form, and writes its type in another case and with a parameter. -/
def muddled : Arrival where
  conditions := conditions
  request := ⟨"POST", ⟨"/oauth/token", none⟩,
    [("content-type", Utf8.encode "Application/X-WWW-Form-Urlencoded ; charset=utf-8")],
    some (Utf8.encode (Form.encode muddledForm))⟩

theorem shown_muddled : muddled.shown =
    ⟨"authorization_code", ask.drawnCode, "sample-client", "", "http://b", ""⟩ := by
  rw [Arrival.shown_eq_ofParams rfl]
  simp [TokenRequest.ofParams, Form.get_cons, muddledForm, Arrival.drawnCode, ask]

theorem length_muddledForm : (Utf8.encode (Form.encode muddledForm)).length ≤ 2097152 :=
  (Form.length_encode_le _).trans (by decide +kernel)

theorem postsForm_muddled : muddled.PostsForm := Arrival.hasForm_iff.mp (by decide +kernel)

end Sample

/-- Of several things that are wrong with a bearer the first is told, and the code is kept for the
right one. -/
theorem Server.token_decided_of_sample :
    let asked := (Sample.server.exchange (.initial ⟨0, 0⟩) Sample.ask).after
    ((Sample.server.exchange asked Sample.muddled).Tells 400 "invalid_grant"
          (some "resource mismatch") ∧
        (Sample.server.exchange asked Sample.muddled).after = asked) ∧
      (Sample.server.exchange asked (Sample.bearer "verifier")).GetsToken Sample.server := by
  intro asked
  have hgrant := Sample.grant?_bearer
    (Sample.server.issues_exchange _ (Sample.mayHaveCode_ask ⟨0, 0⟩)).after
  -- That holds of every store with the grant; this one is not looked into.
  have hmuddled (store : Store) (hgrant : store.grant? Sample.ask.drawnCode
      = some (Sample.authorization.grant ⟨0, 0⟩)) :
      (Sample.server.exchange store Sample.muddled).Tells 400 "invalid_grant"
          (some "resource mismatch") ∧
        (Sample.server.exchange store Sample.muddled).after = store := by
    obtain ⟨hgoes, -⟩ := token_decided Sample.server store (a := Sample.muddled) ⟨rfl, rfl⟩
    rw [tokenRules, Sample.shown_muddled] at hgoes
    refine hgoes.refused [_, _, _, _, _, _, _] _ [_, _] rfl ?_ ⟨_, hgrant, by decide⟩
    intro rule hrule happlies
    simp only [List.mem_cons, List.not_mem_nil, or_false] at hrule
    rcases hrule with rfl | rfl | rfl | rfl | rfl | rfl | rfl
    · obtain hnone | ⟨bytes, hbytes, hlong⟩ := happlies
      · cases hnone
      · obtain rfl := Option.some.inj hbytes
        exact absurd Sample.length_muddledForm hlong.not_ge
    · obtain hform | htype := happlies
      · exact hform Sample.postsForm_muddled
      · exact htype rfl
    · exact absurd (hgrant.symm.trans happlies) nofun
    · obtain ⟨other, hother, hexpired⟩ := happlies
      obtain rfl := Option.some.inj (hgrant.symm.trans hother)
      exact absurd hexpired (by decide)
    · obtain ⟨other, hother, hclient⟩ := happlies
      obtain rfl := Option.some.inj (hgrant.symm.trans hother)
      exact hclient rfl
    · obtain ⟨other, hother, hgiven, -⟩ := happlies
      exact hgiven rfl
    · exact absurd (show "http://b" = "" from happlies) (by decide)
  constructor
  · rw [Sample.redemption_bearer, Arrival.drawnGrant, Sample.authorization_ask] at hgrant
    exact hmuddled asked hgrant
  · obtain ⟨hgoes, hstatus⟩ :=
      token_decided Sample.server asked (a := Sample.bearer "verifier") ⟨rfl, rfl⟩
    have hredeems := Sample.server.redeems_exchange asked Sample.mayHaveToken_bearer hgrant
    obtain ⟨text, hsigned⟩ := Sample.exists_issueAt _ _ _
    exact hgoes.granted (hstatus.mp (hredeems.success text hsigned).1)

end CodeGrant
