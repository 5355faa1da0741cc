import CodeGrant.Proofs.Redirect
import CodeGrant.Proofs.Server.Decision
import CodeGrant.Proofs.Server.Run

/-! # How a request for a code is decided

The authorization endpoint goes by a table (`authorizationRules`), rule by rule: the client must be
known, then the redirect URI must be one of its own, then come the type of the response, the
challenge, the resource, and last whether the redirect URI can stand in a header.  Who passes all
rules is sent on with the code that was just stored (`Exchange.SendsOn`).

So the browser is sent nowhere but to a redirect URI of a known client
(`Server.authorization_decided`).  What is appended is written with harmless characters, whatever
the state is, and the scheme, the host and the path stay those of the redirect URI. -/

namespace CodeGrant

open Http (Response)

/-- The rules of the authorization endpoint, in order. -/
def authorizationRules (store : Store) (a : Arrival) : List Rule :=
  let asked := a.authorization
  [⟨store.client? asked.clientId = none, 400, "invalid_client", none, store⟩,
    ⟨∃ client, store.client? asked.clientId = some client ∧ asked.redirectUri ∉ client.redirectUris,
      400, "invalid_redirect_uri", none, store⟩,
    ⟨asked.responseType ≠ "code", 400, "unsupported_response_type", none, store⟩,
    ⟨asked.challenge = "" ∨ asked.challengeMethod ≠ "S256",
      400, "invalid_request", some "code_challenge required and must be S256", store⟩,
    ⟨asked.resource = "", 400, "invalid_request", some "resource parameter required", store⟩,
    ⟨∃ b ∈ Utf8.encode asked.redirectUri, (b < 0x20 ∧ b ≠ 0x09) ∨ b = 0x7F,
      400, "invalid_redirect_uri", none, store⟩]

/-- The characters that are appended to a redirect URI. -/
def appendedChars : List Char := '?' :: '&' :: '=' :: Form.writtenChars

namespace Exchange

/-- The browser is sent to a redirect URI of a known client, with the code that is now stored with the
record of what was asked, and with the state, unless the state is empty. -/
structure SendsOn (x : Exchange) : Prop where
  status : x.response.status = 302
  client : ∃ client, x.before.client? x.authorization.clientId = some client ∧
    x.authorization.redirectUri ∈ client.redirectUris
  location : x.response.HasOnce "location" x.location
  parts : ∃ tail, x.location = x.authorization.redirectUri
      ++ (if '?' ∈ x.authorization.redirectUri.toList then "&" else "?")
      ++ "code=" ++ x.drawnCode ++ tail ∧
    (x.authorization.state = "" → tail = "") ∧
    (x.authorization.state ≠ "" → tail = "&state=" ++ Form.encodeText x.authorization.state ∧
      ∀ c ∈ (Form.encodeText x.authorization.state).toList, c ∈ Form.writtenChars)
  safe : Response.isHeaderSafe x.location = true
  stored : ∃ grant : Grant, grant.Records x.toArrival ∧
    x.after = x.before.putCode x.drawnCode grant ∧ x.after.grant? x.drawnCode = some grant

end Exchange

/-- A location leads to a client: it is one of the client's redirect URIs with harmless characters
behind it, and goes to the same host and path. -/
structure LeadsTo (location : String) (client : Client) : Prop where
  uri : ∃ uri ∈ client.redirectUris, ∃ tail, location = uri ++ tail ∧
    (∀ c ∈ tail.toList, c ∈ appendedChars) ∧ destination location = destination uri
  safe : Response.isHeaderSafe location = true

/-! ## What is appended -/

/-- What is appended for the state. -/
theorem exists_redirectLocation_eq_append (redirectUri code state : String) : ∃ tail,
    redirectLocation redirectUri code state = redirectUri
      ++ (if '?' ∈ redirectUri.toList then "&" else "?") ++ "code=" ++ code ++ tail ∧
    (state = "" → tail = "") ∧
    (state ≠ "" → tail = "&state=" ++ Form.encodeText state ∧
      ∀ c ∈ (Form.encodeText state).toList, c ∈ Form.writtenChars) := by
  refine ⟨_, redirectLocation_eq_append redirectUri code state, ?_, ?_⟩
  · intro hempty
    exact if_pos hempty
  · intro hstate
    exact ⟨if_neg hstate, fun c => Form.mem_writtenChars_of_mem_encodeText⟩

/-- **Only harmless characters are appended to a redirect URI.** -/
theorem exists_append_of_redirectLocation {count : Nat} {code : String}
    (hcode : Hex.IsDigits count code) (redirectUri state : String) : ∃ tail,
      redirectLocation redirectUri code state = redirectUri ++ tail ∧
        ∀ c ∈ tail.toList, c ∈ appendedChars := by
  obtain ⟨tail, hlocation, hempty, hstate⟩ :=
    exists_redirectLocation_eq_append redirectUri code state
  have hwritten : ∀ c ∈ Form.writtenChars, c ∈ appendedChars :=
    List.forall_iff_forall_mem.mp (by decide)
  have hmark : ∀ c ∈ (if '?' ∈ redirectUri.toList then "&" else "?").toList, c ∈ appendedChars := by
    split <;> exact List.forall_iff_forall_mem.mp (by decide)
  have hname : ∀ c ∈ "code=".toList, c ∈ appendedChars :=
    List.forall_iff_forall_mem.mp (by decide)
  have hdigits : ∀ c ∈ code.toList, c ∈ appendedChars := by
    have hsmall : ∀ c ∈ Hex.smallDigits, c ∈ appendedChars :=
      List.forall_iff_forall_mem.mp (by decide)
    exact fun c hc => hsmall c (hcode.digits c hc)
  have htail : ∀ c ∈ tail.toList, c ∈ appendedChars := by
    by_cases h : state = ""
    · rw [hempty h]
      nofun
    · obtain ⟨rfl, htext⟩ := hstate h
      have hamp : ∀ c ∈ "&state=".toList, c ∈ appendedChars :=
        List.forall_iff_forall_mem.mp (by decide)
      intro c hc
      rw [String.toList_append, List.mem_append] at hc
      exact hc.elim (hamp c) fun hc => hwritten c (htext c hc)
  refine ⟨(if '?' ∈ redirectUri.toList then "&" else "?") ++ "code=" ++ code ++ tail, ?_, ?_⟩
  · rw [hlocation]
    simp only [String.append_assoc]
  · intro c hc
    simp only [String.toList_append, List.mem_append] at hc
    rcases hc with ((hc | hc) | hc) | hc
    · exact hmark c hc
    · exact hname c hc
    · exact hdigits c hc
    · exact htail c hc

namespace Server

variable (server : Server) (store : Store) {a : Arrival}

/-- A request that does not pass the checks is told what is wrong with it. -/
theorem tells_of_check {error : ProtocolError} (h : a.request.LooksAt .authorization)
    (hcheck : a.authorization.check store = .error error) :
    (server.exchange store a).Tells error.status error.code error.description? ∧
      (server.exchange store a).after = store := by
  have hhandle := server.handle_served a.conditions store h.2 (h.serves rfl)
  rw [answer_authorization, hcheck] at hhandle
  exact Exchange.tells_of_handle hhandle

/-- So is one whose redirect URI cannot stand in a header. -/
theorem tells_of_not_isHeaderSafe (h : a.request.LooksAt .authorization)
    (hcheck : a.authorization.check store = .ok ())
    (hsafe : Response.isHeaderSafe a.authorization.redirectUri = false) :
    (server.exchange store a).Tells 400 "invalid_redirect_uri" none ∧
      (server.exchange store a).after = store := by
  have hlocation : Response.isHeaderSafe a.location = false :=
    (isHeaderSafe_redirectLocation _ _ _).trans hsafe
  have hhandle := server.handle_served a.conditions store h.2 (h.serves rfl)
  rw [answer_authorization, hcheck] at hhandle
  simp only [hlocation, Bool.false_eq_true, if_false] at hhandle
  exact Exchange.tells_of_handle hhandle

/-- **A request that passes is sent on.** -/
theorem sendsOn_exchange (h : a.request.LooksAt .authorization)
    (hcheck : a.authorization.check store = .ok ())
    (hsafe : Response.isHeaderSafe a.authorization.redirectUri = true) :
    (server.exchange store a).SendsOn := by
  have hlocation : Response.isHeaderSafe a.location = true :=
    (isHeaderSafe_redirectLocation _ _ _).trans hsafe
  have hhandle := server.handle_served a.conditions store h.2 (h.serves rfl)
  rw [answer_authorization, hcheck] at hhandle
  simp only [if_pos hlocation] at hhandle
  have honce : (server.exchange store a).response.HasOnce "location" a.location := by
    rw [exchange_of_handle hhandle]
    exact (Response.hasOnce_setHeader _ _ _).finish _ (by decide)
  have hafter : (server.exchange store a).after = store.putCode a.drawnCode a.drawnGrant := by
    rw [exchange_of_handle hhandle]
  refine ⟨?_, (AuthorizationRequest.check_eq_ok_iff.mp hcheck).1, honce,
    exists_redirectLocation_eq_append _ _ _, hlocation,
    a.drawnGrant, a.records_drawnGrant, hafter, ?_⟩
  · rw [exchange_of_handle hhandle]
    exact status_finish _ _
  · rw [hafter, Store.grant?_putCode]
    exact if_pos rfl

/-- **The authorization endpoint goes by its table.** -/
theorem goesBy_authorizationRules (h : a.request.LooksAt .authorization) :
    (server.exchange store a).GoesBy (authorizationRules store a)
      (server.exchange store a).SendsOn := by
  refine .cons (fun hunknown => ?_) fun hknown => ?_
  · exact server.tells_of_check store h (by rw [AuthorizationRequest.check, hunknown])
  obtain ⟨client, hclient⟩ := Option.ne_none_iff_exists'.mp hknown
  have hcheck : a.authorization.check store =
      if client.allowsRedirect a.authorization.redirectUri = false then
        .error (.invalidRedirectUri none)
      else if a.authorization.responseType ≠ "code" then .error .unsupportedResponseType
      else if a.authorization.challenge = "" ∨ a.authorization.challengeMethod ≠ "S256" then
        .error .challengeRequired
      else if a.authorization.resource = "" then .error .resourceRequired
      else .ok () := by
    rw [AuthorizationRequest.check, hclient]
    rfl
  have hallows : client.allowsRedirect a.authorization.redirectUri = false ↔
      a.authorization.redirectUri ∉ client.redirectUris := by
    rw [Bool.eq_false_iff, ne_eq, Client.allowsRedirect_iff]
  refine .cons (fun hforeign => ?_) fun hown => ?_
  · obtain ⟨other, hother, huri⟩ := hforeign
    obtain rfl := Option.some.inj (hclient.symm.trans hother)
    exact server.tells_of_check store h (hcheck.trans (if_pos (hallows.mpr huri)))
  rw [if_neg fun huri => hown ⟨client, hclient, hallows.mp huri⟩] at hcheck
  refine .cons (fun htype => ?_) fun htype => ?_
  · exact server.tells_of_check store h (hcheck.trans (if_pos htype))
  rw [if_neg htype] at hcheck
  refine .cons (fun hchallenge => ?_) fun hchallenge => ?_
  · exact server.tells_of_check store h (hcheck.trans (if_pos hchallenge))
  rw [if_neg hchallenge] at hcheck
  refine .cons (fun hresource => ?_) fun hresource => ?_
  · exact server.tells_of_check store h (hcheck.trans (if_pos hresource))
  rw [if_neg hresource] at hcheck
  -- All that is left is whether the redirect URI can stand in a header.
  refine .cons (fun hcontrol => ?_) fun hcontrol => .nil ?_
  · refine server.tells_of_not_isHeaderSafe store h hcheck ?_
    rw [Bool.eq_false_iff]
    intro hsafe
    obtain ⟨b, hb, hbad⟩ := hcontrol
    exact Response.isHeaderSafe_iff.mp hsafe b hb hbad
  · refine server.sendsOn_exchange store h hcheck (Response.isHeaderSafe_iff.mpr ?_)
    intro b hb hbad
    exact hcontrol ⟨b, hb, hbad⟩

/-- **A request that is sent on is sent to the client that it names.** -/
theorem leadsTo_of_sendsOn (hsends : (server.exchange store a).SendsOn) :
    ∃ client, store.client? a.authorization.clientId = some client ∧ LeadsTo a.location client := by
  have hdigits := a.conditions.draws.isDigits_codeText
  obtain ⟨client, hclient, huri⟩ := hsends.client
  obtain ⟨tail, happend, hchars⟩ :=
    exists_append_of_redirectLocation hdigits a.authorization.redirectUri a.authorization.state
  have hdestination := destination_redirectLocation (Form.encodeText_of_isDigits hdigits)
    a.authorization.redirectUri a.authorization.state
  exact ⟨client, hclient, ⟨_, huri, tail, happend, hchars, hdestination⟩, hsends.safe⟩

/-- **A request for a code is decided by the first rule that applies, and nobody is sent to a place
that is not registered.** -/
theorem authorization_decided (h : a.request.LooksAt .authorization) :
    let x := server.exchange store a
    x.GoesBy (authorizationRules store a) x.SendsOn ∧
      (∀ rule ∈ authorizationRules store a, rule.status = 400 ∧ rule.after = store) ∧
      (x.response.status = 302 ↔ ∀ rule ∈ authorizationRules store a, ¬ rule.applies) ∧
      ∀ location, ("location", location) ∈ x.response.headers →
        ∃ client, store.client? a.authorization.clientId = some client ∧
          LeadsTo location client := by
  intro x
  have hgoes := server.goesBy_authorizationRules store h
  refine ⟨hgoes, ?_, hgoes.status_eq_iff (by decide) fun hsends => hsends.status, ?_⟩
  · intro rule hrule
    simp only [authorizationRules, List.mem_cons, List.not_mem_nil, or_false] at hrule
    rcases hrule with rfl | rfl | rfl | rfl | rfl | rfl <;> exact ⟨rfl, rfl⟩
  · intro location hlocation
    have hsends := hgoes.granted_of_location hlocation
    rw [hsends.location.eq_of_mem hlocation]
    exact server.leadsTo_of_sendsOn store hsends

end Server

/-! ## Two requests -/

namespace Sample

/-- The sample client asks for a token where only codes are handed out, without a challenge and
without a resource, and with a state that looks like parameters. -/
def stray : Arrival where
  conditions := conditions
  request := ⟨"GET", ⟨"/oauth/authorize", some (Form.encode [("client_id", "sample-client"),
    ("redirect_uri", "http://localhost:8081/callback"), ("response_type", "token"),
    ("state", "&response_type=code\r\n")])⟩, [], some []⟩

theorem authorization_stray : stray.authorization =
    ⟨"sample-client", "http://localhost:8081/callback", "token", "", "", "",
      "&response_type=code\r\n", ""⟩ := by
  rw [Arrival.authorization_eq_ofParams rfl]
  simp [AuthorizationRequest.ofParams, Form.get_cons]

end Sample

/-- Of several things that are wrong the first is told, and a request with nothing wrong is sent
on. -/
theorem Server.authorization_decided_of_sample :
    (Sample.server.exchange (.initial ⟨0, 0⟩) Sample.stray).Tells 400
        "unsupported_response_type" none ∧
      (Sample.server.exchange (.initial ⟨0, 0⟩) Sample.ask).SendsOn := by
  have hclient := (Store.client?_initial ⟨0, 0⟩ "sample-client").trans (if_pos rfl)
  constructor
  · obtain ⟨hgoes, -⟩ := authorization_decided Sample.server (.initial ⟨0, 0⟩) (a := Sample.stray)
      ⟨.inl rfl, rfl⟩
    have htype : Sample.stray.authorization.responseType ≠ "code" := by
      rw [Sample.authorization_stray]
      decide
    refine (hgoes.refused [_, _] _ [_, _, _] rfl ?_ htype).1
    rw [Sample.authorization_stray]
    intro rule hrule happlies
    rcases List.mem_pair.mp hrule with rfl | rfl
    · exact absurd (hclient.symm.trans happlies) nofun
    · obtain ⟨client, hother, huri⟩ := happlies
      obtain rfl := Option.some.inj (hclient.symm.trans hother)
      exact huri (List.mem_singleton.mpr rfl)
  · obtain ⟨hgoes, -⟩ := authorization_decided Sample.server (.initial ⟨0, 0⟩) (a := Sample.ask)
      ⟨.inl rfl, rfl⟩
    refine hgoes.granted ?_
    have hsafe : Response.isHeaderSafe "http://localhost:8081/callback" = true := by decide
    rw [authorizationRules, Sample.authorization_ask]
    intro rule hrule happlies
    simp only [List.mem_cons, List.not_mem_nil, or_false] at hrule
    rcases hrule with rfl | rfl | rfl | rfl | rfl | rfl
    · exact absurd (hclient.symm.trans happlies) nofun
    · obtain ⟨client, hother, huri⟩ := happlies
      obtain rfl := Option.some.inj (hclient.symm.trans hother)
      exact huri (List.mem_singleton.mpr rfl)
    · exact happlies rfl
    · rcases happlies with hempty | hmethod
      · exact absurd hempty (Pkce.challenge_ne_empty _)
      · exact hmethod rfl
    · exact absurd happlies (by decide)
    · obtain ⟨b, hb, hbad⟩ := happlies
      exact Response.isHeaderSafe_iff.mp hsafe b hb hbad

end CodeGrant
