import CodeGrant.Proofs.Json.Value
import CodeGrant.Proofs.Server.TokenDecision
import CodeGrant.Proofs.Token.Claims

/-! # What is said about an issued token

A token says what its issuer was asked for, whatever was asked for, and no two requests for
different things get the same claims.  What the token endpoint says beside the token agrees with
the token (`Exchange.DescribesToken`): how long it is good for is the time between its issue and its
end, and the scope is that of its claims, left out where it is empty. -/

namespace CodeGrant

open Http (Request Response)

/-- **Equal claims were asked for alike.**  The second segments of two tokens are equal only if the
same issuer was asked for the same audience and scope in the same second. -/
theorem TokenIssuer.asked_alike {issuer other : TokenIssuer}
    {audience audience' scope scope' text text' : String} {now now' : Instant}
    {token token' : CompactToken} (h : issuer.SaysWhatWasAsked audience scope now text)
    (h' : other.SaysWhatWasAsked audience' scope' now' text')
    (htoken : CompactToken.ofText? text = some token)
    (htoken' : CompactToken.ofText? text' = some token') (hclaims : token.claims = token'.claims) :
    issuer.name = other.name ∧ audience = audience' ∧ scope = scope' ∧
      now.seconds = now'.seconds := by
  obtain ⟨_, claims, hcut, -, hread, hasked⟩ := h
  obtain ⟨_, claims', hcut', -, hread', hasked'⟩ := h'
  obtain rfl := Option.some.inj (htoken.symm.trans hcut)
  obtain rfl := Option.some.inj (htoken'.symm.trans hcut')
  -- Nothing but the second segment is read.
  rw [CompactToken.claims?, hclaims] at hread
  obtain rfl : claims = claims' := Option.some.inj (hread.symm.trans hread')
  exact ⟨hasked.issuer.symm.trans hasked'.issuer, hasked.audience.symm.trans hasked'.audience,
    hasked.scope.symm.trans hasked'.scope, hasked.issuedAt.symm.trans hasked'.issuedAt⟩

namespace Exchange

/-- The body is an object that hands out a token for a grant, and what it says about the token is
what the claims of the token say. -/
structure DescribesToken (server : Server) (x : Exchange) (grant : Grant)
    (members : List (String × Json)) (text : String) (claims : Claims) : Prop where
  known : x.before.grant? x.shown.code = some grant
  body : Json.read? (Utf8.encode x.response.body) = some (.object members)
  nodup : (members.map Prod.fst).Nodup
  accessToken : members.lookup "access_token" = some (.text text)
  said : ∃ token, CompactToken.ofText? text = some token ∧ token.claims? = some claims
  asked : claims.AreAsked server.tokens.name grant.resource grant.scope x.conditions.signedAt
  tokenType : members.lookup "token_type" = some (.text "Bearer")
  expiresIn : members.lookup "expires_in"
    = some (.int (claims.expiresAt.toInt - claims.issuedAt.toInt))
  scope : members.lookup "scope" = if grant.scope = "" then none else some (.text claims.scope)

/-- **What is said beside a token agrees with the token.** -/
theorem GetsToken.describesToken {server : Server} {x : Exchange} (h : x.GetsToken server)
    (hsigned : x.conditions.signedAt.inCalendar) :
    ∃ grant members text claims, x.DescribesToken server grant members text claims := by
  obtain ⟨grant, text, hgrant, hissue, hbody⟩ := h.body
  obtain ⟨token, claims, htoken, -, hclaims, hasked⟩ :=
    TokenIssuer.saysWhatWasAsked_of_issueAt hsigned hissue
  have hlifetime : claims.expiresAt.toInt - claims.issuedAt.toInt = 3600 := by
    rw [hasked.expiresAt, hasked.issuedAt]
    omega
  refine ⟨grant, [("access_token", .text text), ("token_type", .text "Bearer"),
    ("expires_in", .int 3600)] ++ if grant.scope = "" then [] else [("scope", .text grant.scope)],
    text, claims, ?_⟩
  refine ⟨hgrant, hbody.read, ?_, rfl, ⟨token, htoken, hclaims⟩, hasked, rfl, ?_, ?_⟩
  · split <;> simp
  · rw [hlifetime]
    rfl
  · rw [hasked.scope]
    split <;> rfl

end Exchange

namespace Server

/-- Only a bearer who gets a token is told of success at the token endpoint. -/
theorem getsToken_of_status (server : Server) (store : Store) {a : Arrival}
    (hpath : a.request.target.path = Endpoint.token.path)
    (hstatus : (server.exchange store a).response.status = 200) :
    (server.exchange store a).GetsToken server := by
  cases hserves : Endpoint.token.serves a.request.method with
  | true =>
    have hgoes := server.goesBy_tokenRules store (Request.Posts.of_serves hpath hserves rfl)
    exact hgoes.granted ((hgoes.status_eq_iff (by decide) fun hgets => hgets.status).mp hstatus)
  | false =>
    have hunserved : ∀ e : Endpoint, a.request.target.path = e.path →
        e.serves a.request.method = false := by
      intro e he
      rw [← Endpoint.path_injective (hpath.symm.trans he)]
      exact hserves
    obtain ⟨response, hother, hhandle⟩ := server.exists_handle_unserved a.request hunserved
    have hresponse : (server.exchange store a).response = response :=
      congrArg Prod.fst (hhandle a.conditions store)
    rw [← hresponse, hstatus] at hother
    exact absurd hother (by decide)

end Server

/-- **Issued claims are exactly what was asked for.**  A token that is issued in the calendar, for any
issuer, audience and scope, says what was asked for; different requests get different claims; and what
the token endpoint says about a token that it hands out is what the token says. -/
theorem issued_as_asked :
    (∀ (issuer : TokenIssuer) (audience scope text : String) (now : Instant), now.inCalendar →
      issuer.issueAt audience scope now = .ok text →
        issuer.SaysWhatWasAsked audience scope now text) ∧
    (∀ (issuer other : TokenIssuer) (audience audience' scope scope' text text' : String)
      (now now' : Instant) (token token' : CompactToken), now.inCalendar → now'.inCalendar →
      issuer.issueAt audience scope now = .ok text →
      other.issueAt audience' scope' now' = .ok text' →
      CompactToken.ofText? text = some token → CompactToken.ofText? text' = some token' →
      (issuer.name, audience, scope, now.seconds) ≠ (other.name, audience', scope', now'.seconds) →
        token.claims ≠ token'.claims) ∧
    ∀ (server : Server) (store : Store) (a : Arrival),
      a.request.target.path = Endpoint.token.path → a.conditions.signedAt.inCalendar →
      (server.exchange store a).response.status = 200 → ∃ grant members text claims,
        (server.exchange store a).DescribesToken server grant members text claims := by
  refine ⟨fun issuer audience scope text now => TokenIssuer.saysWhatWasAsked_of_issueAt, ?_, ?_⟩
  · intro issuer other audience audience' scope scope' text text' now now' token token' hnow hnow'
      hissue hissue' htoken htoken' hdifferent hclaims
    obtain ⟨hname, haudience, hscope, hseconds⟩ := TokenIssuer.asked_alike
      (TokenIssuer.saysWhatWasAsked_of_issueAt hnow hissue)
      (TokenIssuer.saysWhatWasAsked_of_issueAt hnow' hissue') htoken htoken' hclaims
    exact hdifferent (by rw [hname, haudience, hscope, hseconds])
  · intro server store a hpath hsigned hstatus
    exact (server.getsToken_of_status store hpath hstatus).describesToken hsigned

/-- Two scopes that differ in a quotation mark, asked for in a leap second, and the token of the
sample client. -/
theorem issued_as_asked_of_sample :
    (∃ text text' token token', CompactToken.ofText? text = some token ∧
      CompactToken.ofText? text' = some token' ∧
      Sample.server.tokens.SaysWhatWasAsked "http://a" "read\",\"" ⟨-1, 1500000000⟩ text ∧
      Sample.server.tokens.SaysWhatWasAsked "http://a" "read\"," ⟨-1, 1500000000⟩ text' ∧
      token.claims ≠ token'.claims) ∧
    ∃ grant members text claims,
      (Sample.server.exchange (Sample.server.exchange (.initial ⟨0, 0⟩) Sample.ask).after
        (Sample.bearer "verifier")).DescribesToken Sample.server grant members text claims := by
  obtain ⟨htold, hdifferent, hdescribes⟩ := issued_as_asked
  constructor
  · have hsigns (scope : String) :
        ∃ text, Sample.server.tokens.issueAt "http://a" scope ⟨-1, 1500000000⟩ = .ok text :=
      Sample.exists_issueAt _ _ _
    obtain ⟨text, hissue⟩ := hsigns "read\",\""
    obtain ⟨text', hissue'⟩ := hsigns "read\","
    have hsaid := htold _ _ _ _ _ (by decide) hissue
    have hsaid' := htold _ _ _ _ _ (by decide) hissue'
    have ⟨token, _, htoken, _⟩ := hsaid
    have ⟨token', _, htoken', _⟩ := hsaid'
    exact ⟨text, text', token, token', htoken, htoken', hsaid, hsaid',
      hdifferent _ _ _ _ _ _ _ _ _ _ _ _ (by decide) (by decide) hissue hissue' htoken htoken'
        (by decide)⟩
  · have hissues := Sample.server.issues_exchange _ (Sample.mayHaveCode_ask ⟨0, 0⟩)
    have hredeems := Sample.server.redeems_exchange
      (Sample.server.exchange (.initial ⟨0, 0⟩) Sample.ask).after Sample.mayHaveToken_bearer
      (Sample.grant?_bearer hissues.after)
    obtain ⟨text, hsigned⟩ := Sample.exists_issueAt _ _ _
    exact hdescribes _ _ _ rfl (by decide) (hredeems.success text hsigned).1

end CodeGrant
