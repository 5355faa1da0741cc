import CodeGrant.Proofs.Server.Conservation
import CodeGrant.Proofs.Token.Compact

/-! # Who gets a token has asked for it

A response with an access token answers a bearer who shows a code
(`Exchange.Outcome.redeems_of_handsOutToken`).  The code was issued before, in one
exchange only, and what was asked for then is what the bearer shows and what the token
says (`Exchange.Backs`). -/

namespace CodeGrant

namespace Exchange

/-- Whether the response is a success with an access token. -/
def HandsOutToken (x : Exchange) (token : Json) : Prop :=
  x.response.status = 200 ∧ ∃ members, x.response.body = (Json.object members).render ∧
    ("access_token", token) ∈ members

/-- What was asked for in one exchange is what a bearer shows in another and what its token says. -/
structure Backs (y x : Exchange) (claims : Claims) : Prop where
  request : y.request.LooksAt .authorization
  status : y.response.status = 302
  code : y.drawnCode = x.redemption.code
  clientId : y.authorization.clientId = x.redemption.clientId
  /-- The client was known then, with the redirect URI. -/
  client : ∃ client, y.before.client? y.authorization.clientId = some client ∧
    y.authorization.redirectUri ∈ client.redirectUris
  challenge : y.authorization.challenge =
    Base64Url.encode (Sha256.digest (Utf8.encode x.redemption.verifier))
  resource_ne : y.authorization.resource ≠ ""
  resource : y.authorization.resource = x.redemption.resource
  audience : y.authorization.resource = claims.audience
  scope : y.authorization.scope = claims.scope
  redirectUri : x.redemption.redirectUri = "" ∨
    x.redemption.redirectUri = y.authorization.redirectUri
  /-- The code has not expired. -/
  live : x.conditions.now.isAfter (y.conditions.now.addSeconds Grant.lifetime) = false

variable {server : Server} {x y : Exchange} {token : Json} {grant : Grant}

theorem access_token_notMem_publicDocuments {members : List (String × Json)}
    (h : Json.object members ∈ server.publicDocuments) : ("access_token", token) ∉ members := by
  simp only [Server.publicDocuments, List.mem_cons, List.not_mem_nil, or_false, healthDocument,
    Config.metadata, JwkSet.document, Json.object.injEq] at h
  rcases h with rfl | rfl | rfl <;> simp

/-- An object has a text. -/
theorem render_object_ne_empty (members : List (String × Json)) :
    (Json.object members).render ≠ "" := by
  intro h
  have hchars := Json.toList_render (.object members)
  rw [h, Json.chars] at hchars
  cases hchars

theorem token_eq_of_mem {text scope : String} {members : List (String × Json)}
    (h : Json.object members = .ofToken text scope) (hmember : ("access_token", token) ∈ members) :
    token = .text text := by
  rw [Json.ofToken, Json.object.injEq] at h
  subst h
  split at hmember <;> simpa using hmember

/-- **Only a code is exchanged for a token.** -/
theorem Outcome.redeems_of_handsOutToken (h : x.Outcome server) (htoken : x.HandsOutToken token) :
    ∃ grant text, x.Redeems server grant ∧ x.token server grant = .ok text ∧
      token = .text text := by
  obtain ⟨hstatus, members, hbody, hmember⟩ := htoken
  cases h with
  | quiet h =>
    rcases h.success hstatus with hempty | ⟨document, hpublic, hdocument⟩
    · exact absurd (hbody.symm.trans hempty) (render_object_ne_empty members)
    · -- The text of the body is the text of one document only, and no public one has a token.
      have := Json.render_injective (hbody.symm.trans hdocument)
      rw [← this] at hpublic
      exact absurd hmember (access_token_notMem_publicDocuments hpublic)
  | registers h =>
    have := h.status
    rw [hstatus] at this
    exact absurd this (by decide)
  | issues h => exact absurd (hstatus.symm.trans h.status) (by decide)
  | expires h => exact absurd (hstatus.symm.trans h.status) (by decide)
  | redeems h =>
    cases hsigned : x.token server _ with
    | error error => exact absurd (hstatus.symm.trans (h.failure error hsigned)) (by decide)
    | ok text =>
      refine ⟨_, text, h, hsigned, ?_⟩
      have := Json.render_injective (hbody.symm.trans (h.success text hsigned).2)
      exact token_eq_of_mem this hmember

/-- **What was asked for backs the token that is issued for it.** -/
theorem Issues.backs {issuer : TokenIssuer} (hy : y.Issues) (hcode : y.drawnCode = x.redemption.code)
    (hx : x.MayHaveToken y.drawnGrant) (now : Instant) :
    y.Backs x (issuer.claims y.authorization.resource y.authorization.scope now) := by
  obtain ⟨hclient, -, -, -, hresource⟩ := AuthorizationRequest.check_eq_ok_iff.mp hy.check
  obtain ⟨hid, hredirect, -, hsame, hchallenge⟩ := TokenRequest.check_grant_eq_ok_iff.mp hx.check
  exact {
    request := hy.request
    status := hy.status
    code := hcode
    clientId := hid.symm
    client := hclient
    challenge := hchallenge.symm
    resource_ne := hresource
    resource := hsame.symm
    audience := TokenIssuer.audience_claims.symm
    scope := TokenIssuer.scope_claims.symm
    redirectUri := hredirect
    live := hx.live }

end Exchange

namespace Run

variable {xs : List Exchange}

/-- **A code that is issued once is issued in one exchange.** -/
theorem index_unique {j k : Nat} {y z : Exchange} {code : String}
    (hnodup : (issuedCodes xs).Nodup) (hj : xs[j]? = some y) (hk : xs[k]? = some z)
    (hy : y.HandsOutCode ∧ y.drawnCode = code) (hz : z.HandsOutCode ∧ z.drawnCode = code) :
    j = k := by
  rw [List.Nodup, issuedCodes, issued, List.pairwise_map, List.pairwise_filterMap,
    List.pairwise_iff_getElem] at hnodup
  obtain ⟨hjlt, rfl⟩ := List.getElem?_eq_some_iff.mp hj
  obtain ⟨hklt, rfl⟩ := List.getElem?_eq_some_iff.mp hk
  have hy' := Exchange.issued?_eq_some_iff.mpr ⟨hy.1, hy.2, rfl⟩
  have hz' := Exchange.issued?_eq_some_iff.mpr ⟨hz.1, hz.2, rfl⟩
  -- Of two different exchanges one comes first, and what it issues is not issued again.
  rcases Nat.lt_trichotomy j k with hlt | heq | hgt
  · exact (hnodup j k hjlt hklt hlt _ hy' _ hz' rfl).elim
  · exact heq
  · exact (hnodup k j hklt hjlt hgt _ hz' _ hy' rfl).elim

variable {server : Server} {start : Instant} {arrivals : List Arrival} {i : Nat} {x : Exchange}
  {code : String} {grant : Grant}

/-- **A code that is known in a run was issued before, and nobody used it up in between.** -/
theorem issued_of_known (hnodup : (issuedCodes (server.run (.initial start) arrivals)).Nodup)
    (hx : (server.run (.initial start) arrivals)[i]? = some x)
    (hknown : x.before.grant? code = some grant) :
    (∃ (j : Nat) (y : Exchange), j < i ∧ (server.run (.initial start) arrivals)[j]? = some y ∧
      y.HandsOutCode ∧ y.drawnCode = code ∧ y.drawnGrant = grant) ∧
    ∀ (k : Nat) (z : Exchange), k < i → (server.run (.initial start) arrivals)[k]? = some z →
      z.UsesUpCode → z.redemption.code ≠ code := by
  obtain ⟨a, -, rfl⟩ := server.getElem?_run hx
  have hrun := server.run_take (.initial start) arrivals i
  have hearlier : (issuedCodes (server.run (.initial start) (arrivals.take i))).Nodup := by
    rw [hrun]
    exact hnodup.sublist (((List.take_sublist i _).filterMap _).map _)
  -- The run so far tells both where the code comes from and that nobody used it up.
  obtain ⟨hissued, hkept⟩ := (grant?_storeAfter_iff server hearlier
    (fun _ _ => Store.grant?_initial start _) code grant).mp hknown
  rw [hrun] at hissued hkept
  constructor
  · rcases hissued with hstart | hissued
    · rw [Store.grant?_initial] at hstart
      cases hstart
    · obtain ⟨y, hy, hyissued⟩ := List.mem_filterMap.mp hissued
      obtain ⟨j, hj⟩ := List.mem_iff_getElem?.mp hy
      rw [List.getElem?_take, Option.ite_none_right_eq_some] at hj
      exact ⟨j, y, hj.1, hj.2, Exchange.issued?_eq_some_iff.mp hyissued⟩
  · intro k z hk hz hused hcode
    refine hkept (List.mem_filterMap.mpr ⟨z, ?_, Exchange.usedUp?_eq_some_iff.mpr ⟨hused, hcode⟩⟩)
    exact List.mem_iff_getElem?.mpr ⟨k, by rw [List.getElem?_take_of_lt hk, hz]⟩

/-- **A code is used up in one exchange.** -/
theorem usedUp_unique (hnodup : (issuedCodes (server.run (.initial start) arrivals)).Nodup)
    {k : Nat} {z : Exchange} (hx : (server.run (.initial start) arrivals)[i]? = some x)
    (hz : (server.run (.initial start) arrivals)[k]? = some z) (hxused : x.UsesUpCode)
    (hzused : z.UsesUpCode) (hcode : z.redemption.code = x.redemption.code) : k = i := by
  obtain ⟨⟨grant, hxknown⟩, -⟩ := (server.outcome_of_getElem?_run hx).erase_of_usesUp hxused
  obtain ⟨⟨grant', hzknown⟩, -⟩ := (server.outcome_of_getElem?_run hz).erase_of_usesUp hzused
  -- The later of two different exchanges would find the code, which the earlier one used up.
  rcases Nat.lt_trichotomy k i with hlt | heq | hgt
  · exact absurd hcode ((issued_of_known hnodup hx hxknown).2 k z hlt hz hzused)
  · exact heq
  · exact absurd hcode.symm ((issued_of_known hnodup hz hzknown).2 i x hgt hx hxused)

end Run

/-- **Whoever gets a token has asked for it.**  In a run in which no code is issued twice, a
response with an access token answers a bearer who posted a code to the token endpoint.  Exactly one
exchange issued the code; it came before, and backs the claims that the token says.  No other
exchange uses up the code. -/
theorem Server.token_sound (server : Server) (start : Instant) (arrivals : List Arrival)
    (hnodup : (Run.issuedCodes (server.run (.initial start) arrivals)).Nodup)
    (i : Nat) (x : Exchange) (token : Json)
    (hx : (server.run (.initial start) arrivals)[i]? = some x) (htoken : x.HandsOutToken token) :
    x.request.Posts .token ∧ x.redemption.grantType = "authorization_code" ∧
      ∃ text claims, token = .text text ∧ claims.SaidBy text ∧
        ∃ (j : Nat) (y : Exchange), j < i ∧
          (server.run (.initial start) arrivals)[j]? = some y ∧ y.Backs x claims ∧
          (∀ (k : Nat) (z : Exchange), (server.run (.initial start) arrivals)[k]? = some z →
            z.HandsOutCode → z.drawnCode = x.redemption.code → k = j) ∧
          ∀ (k : Nat) (z : Exchange), (server.run (.initial start) arrivals)[k]? = some z →
            z.UsesUpCode → z.redemption.code = x.redemption.code → k = i := by
  obtain ⟨grant, text, hredeems, hsigned, rfl⟩ :=
    (server.outcome_of_getElem?_run hx).redeems_of_handsOutToken htoken
  obtain ⟨⟨j, y, hj, hy, hissued, hcode, rfl⟩, -⟩ := Run.issued_of_known hnodup hx hredeems.known
  have hissues := (server.outcome_of_getElem?_run hy).issues_of_handsOut hissued
  refine ⟨hredeems.request, hredeems.grantType, text, _, rfl,
    TokenIssuer.claims_of_issueAt hsigned, j, y, hj, hy,
    hissues.backs hcode hredeems.toMayHaveToken _, ?_, ?_⟩
  · exact fun k z hz hzissued hzcode => Run.index_unique hnodup hz hy ⟨hzissued, hzcode⟩
      ⟨hissued, hcode⟩
  · exact fun k z hz hzused hzcode => Run.usedUp_unique hnodup hx hz hredeems.usesUp hzused hzcode

/-- The sample client gets a token for the code that it asked for. -/
theorem Server.token_sound_of_sample :
    ∃ x token, (Sample.server.run (.initial ⟨0, 0⟩) [Sample.ask, Sample.bearer "verifier"])[1]? = some x
      ∧ x.HandsOutToken token ∧ ∃ y claims,
        (Sample.server.run (.initial ⟨0, 0⟩) [Sample.ask, Sample.bearer "verifier"])[0]? = some y ∧
          y.Backs x claims := by
  have hissues := Sample.server.issues_exchange _ (Sample.mayHaveCode_ask ⟨0, 0⟩)
  have hredeems := Sample.server.redeems_exchange
    (Sample.server.exchange (.initial ⟨0, 0⟩) Sample.ask).after Sample.mayHaveToken_bearer
    (Sample.grant?_bearer hissues.after)
  obtain ⟨text, hsigned⟩ := Sample.exists_issueAt _ _ _
  obtain ⟨hstatus, hbody⟩ := hredeems.success text hsigned
  have htoken : Exchange.HandsOutToken _ (.text text) :=
    ⟨hstatus, _, hbody, List.mem_append_left _ List.mem_cons_self⟩
  have hnodup : (Run.issuedCodes (Sample.server.run (.initial ⟨0, 0⟩)
      [Sample.ask, Sample.bearer "verifier"])).Nodup := by
    refine Run.nodup_issuedCodes_cons_iff.mpr ⟨fun code grant _ hlater => ?_,
      Run.nodup_issuedCodes_cons_iff.mpr ⟨fun _ _ _ => List.not_mem_nil, List.nodup_nil⟩⟩
    obtain ⟨issue, hissue, -⟩ := List.mem_map.mp hlater
    rcases Run.mem_issued_cons.mp hissue with hissued | hnone
    · exact Exchange.not_handsOut_of_path hredeems.request.2 (by decide)
        (Exchange.issued?_eq_some_iff.mp hissued).1
    · cases hnone
  obtain ⟨-, -, _, claims, -, -, j, y, hj, hy, hbacks, -⟩ :=
    token_sound Sample.server ⟨0, 0⟩ _ hnodup 1 _ _ rfl htoken
  rw [Nat.lt_one_iff.mp hj] at hy
  exact ⟨_, _, rfl, htoken, y, claims, hy, hbacks⟩

end CodeGrant
