import CodeGrant.Proofs.Server.Run

/-! # What a request sees and what it changes

A request sees at most one entry of the store: one that asks for a code looks up the client
that it names, and one that redeems a code looks up that code (`Arrival.named?`,
`Arrival.shown?`).  It changes at most one entry as well: the client whose identifier it draws,
the code that it draws, or the code that it shows (`Store.Change`, `Arrival.MayMake`).

So two stores that look alike to a request are treated alike: the responses are the same,
and so are the changes, whatever else the stores hold (`Server.exchange_congr`).  Of a client,
only the redirect URIs are seen. -/

namespace CodeGrant

open Http (Request Response)

/-! ## Changes of a store -/

namespace Store

/-- A place in a store. -/
inductive Entry where
  | client (id : String)
  | code (code : String)
  deriving DecidableEq

/-- What a request may do to a store. -/
inductive Change where
  | nothing
  | insertClient (client : Client)
  | putCode (code : String) (grant : Grant)
  | eraseCode (code : String)

/-- Whether two stores hold the same at a place. -/
def SameAt (s t : Store) : Entry → Prop
  | .client id => s.client? id = t.client? id
  | .code code => s.grant? code = t.grant? code

variable {s t : Store} {e : Entry}

theorem eq_of_sameAt (h : ∀ e, s.SameAt t e) : s = t :=
  ext_lookup (fun id => h (.client id)) fun code => h (.code code)

theorem SameAt.trans {u : Store} (hst : s.SameAt t e) (htu : t.SameAt u e) : s.SameAt u e := by
  cases e with
  | client id => exact Eq.trans hst htu
  | code code => exact Eq.trans hst htu

theorem SameAt.symm (h : s.SameAt t e) : t.SameAt s e := by
  cases e with
  | client id => exact Eq.symm h
  | code code => exact Eq.symm h

namespace Change

/-- The store behind a change. -/
def apply : Change → Store → Store
  | nothing, store => store
  | insertClient client, store => store.insertClient client
  | putCode code grant, store => store.putCode code grant
  | eraseCode code, store => store.eraseCode code

/-- The place that a change concerns. -/
def entry? : Change → Option Entry
  | nothing => none
  | insertClient client => some (.client client.id)
  | putCode code _ | eraseCode code => some (.code code)

/-- **A change leaves all other places alone.** -/
theorem sameAt_apply {c : Change} (s : Store) (h : c.entry? ≠ some e) : (c.apply s).SameAt s e := by
  cases c with
  | nothing => cases e <;> rfl
  | insertClient client =>
    cases e with
    | code code => rfl
    | client id =>
      rw [apply, SameAt, client?_insertClient, if_neg]
      rintro rfl
      exact h rfl
  | putCode code grant =>
    cases e with
    | client id => rfl
    | code other =>
      rw [apply, SameAt, grant?_putCode, if_neg]
      rintro rfl
      exact h rfl
  | eraseCode code =>
    cases e with
    | client id => rfl
    | code other =>
      rw [apply, SameAt, grant?_eraseCode, if_neg]
      rintro rfl
      exact h rfl

end Change

/-- A change does the same to stores that hold the same. -/
theorem SameAt.apply (h : s.SameAt t e) (c : Change) : (c.apply s).SameAt (c.apply t) e := by
  cases e with
  | client id =>
    have hclient : s.client? id = t.client? id := h
    cases c <;> simp [Change.apply, SameAt, hclient]
  | code code =>
    have hgrant : s.grant? code = t.grant? code := h
    cases c <;> simp [Change.apply, SameAt, hgrant]

/-- **Changes at different places come to the same in either order.** -/
theorem Change.apply_comm {c d : Change} (h : ∀ e, c.entry? = some e → d.entry? ≠ some e)
    (s : Store) : c.apply (d.apply s) = d.apply (c.apply s) := by
  refine eq_of_sameAt fun e => ?_
  by_cases hc : c.entry? = some e
  · -- Only the one change concerns this place.
    have hd : (d.apply s).SameAt s e := sameAt_apply s (h e hc)
    exact (hd.apply c).trans (sameAt_apply _ (h e hc)).symm
  · have hcs : (c.apply s).SameAt s e := sameAt_apply s hc
    exact (sameAt_apply _ hc).trans (hcs.apply d).symm

end Store

/-! ## What a request sees -/

namespace Arrival

/-- The client that is named by one who asks for a code. -/
def named? (a : Arrival) : Option String :=
  if a.request.LooksAt .authorization then some a.authorization.clientId else none

/-- The code that is shown by one who asks for a token; without the right type of grant, or without
a body that can be read, none is shown. -/
def shown? (a : Arrival) : Option String :=
  if a.request.Posts .token ∧ a.redemption.grantType = TokenRequest.codeGrantType then
    some a.redemption.code
  else none

/-- The code that is drawn for one who asks for it. -/
def drawn? (a : Arrival) : Option String :=
  if a.request.LooksAt .authorization then some a.drawnCode else none

/-- The identifier that is drawn for one who registers. -/
def enrolled? (a : Arrival) : Option String :=
  if a.request.Posts .registration then some a.conditions.draws.clientIdText else none

theorem named?_of_looksAt {a : Arrival} (h : a.request.LooksAt .authorization) :
    a.named? = some a.authorization.clientId :=
  if_pos h

theorem shown?_of_posts {a : Arrival} (h : a.request.Posts .token)
    (htype : a.redemption.grantType = TokenRequest.codeGrantType) :
    a.shown? = some a.redemption.code :=
  if_pos ⟨h, htype⟩

theorem drawn?_of_looksAt {a : Arrival} (h : a.request.LooksAt .authorization) :
    a.drawn? = some a.drawnCode :=
  if_pos h

theorem enrolled?_of_posts {a : Arrival} (h : a.request.Posts .registration) :
    a.enrolled? = some a.conditions.draws.clientIdText :=
  if_pos h

/-- Whether two stores look alike to a request. -/
structure SeesAlike (a : Arrival) (s t : Store) : Prop where
  redirectUris : ∀ id, a.named? = some id →
    (s.client? id).map Client.redirectUris = (t.client? id).map Client.redirectUris
  grant : ∀ code, a.shown? = some code → s.grant? code = t.grant? code

theorem SeesAlike.refl (a : Arrival) (s : Store) : a.SeesAlike s s := ⟨fun _ _ => rfl, fun _ _ => rfl⟩

end Arrival

/-- Of a client, the check of a request for a code sees the redirect URIs only. -/
theorem AuthorizationRequest.check_congr {request : AuthorizationRequest} {s t : Store}
    (h : (s.client? request.clientId).map Client.redirectUris
      = (t.client? request.clientId).map Client.redirectUris) : request.check s = request.check t := by
  unfold check
  cases hs : s.client? request.clientId with
  | none =>
    cases ht : t.client? request.clientId with
    | none => rfl
    | some other =>
      rw [hs, ht] at h
      cases h
  | some client =>
    cases ht : t.client? request.clientId with
    | none =>
      rw [hs, ht] at h
      cases h
    | some other =>
      rw [hs, ht] at h
      have huris : client.redirectUris = other.redirectUris := Option.some.inj h
      have hallows : client.allowsRedirect request.redirectUri
          = other.allowsRedirect request.redirectUri := by
        rw [Client.allowsRedirect, huris, Client.allowsRedirect]
      simp only [hallows]

/-- Redemption sees the code that is redeemed, and at most takes it away. -/
theorem Store.redeem_congr {s t : Store} {code : String} (h : s.grant? code = t.grant? code)
    (now : Instant) (check : Grant → Except ProtocolError Unit) :
    ∃ (result : Except ProtocolError Grant) (change : Change), (change = .nothing ∨ change = .eraseCode code) ∧
      s.redeem code now check = (result, change.apply s) ∧
      t.redeem code now check = (result, change.apply t) := by
  cases hgrant : s.grant? code with
  | none =>
    exact ⟨_, .nothing, .inl rfl, redeem_of_unknown hgrant, redeem_of_unknown (h ▸ hgrant)⟩
  | some grant =>
    have hother : t.grant? code = some grant := h ▸ hgrant
    cases hexpired : grant.isExpiredAt now with
    | true =>
      exact ⟨_, .eraseCode code, .inr rfl, redeem_of_expired hgrant hexpired,
        redeem_of_expired hother hexpired⟩
    | false =>
      cases hcheck : check grant with
      | error error =>
        exact ⟨_, .nothing, .inl rfl, redeem_of_refused hgrant hexpired hcheck,
          redeem_of_refused hother hexpired hcheck⟩
      | ok _ =>
        exact ⟨_, .eraseCode code, .inr rfl, redeem_of_accepted hgrant hexpired hcheck,
          redeem_of_accepted hother hexpired hcheck⟩

/-! ## What a request changes -/

/-- Whether a request may make a change: it registers this client, it is issued this code, or it
shows this code. -/
inductive Arrival.MayMake (a : Arrival) : Store.Change → Prop
  | nothing : a.MayMake .nothing
  | insertClient {client : Client} (h : a.enrolled? = some client.id) :
    a.MayMake (.insertClient client)
  | putCode {code : String} {grant : Grant} (h : a.drawn? = some code) :
    a.MayMake (.putCode code grant)
  | eraseCode {code : String} (h : a.shown? = some code) : a.MayMake (.eraseCode code)

namespace Server

variable (server : Server) {a : Arrival} {s t : Store}

/-- Whether an endpoint answers a request at two stores alike, and makes the same change. -/
def AnswersAlike (a : Arrival) (s t : Store) (e : Endpoint) : Prop :=
  ∃ (result : Except ProtocolError Response) (change : Store.Change), a.MayMake change ∧
    server.answer a.conditions s a.request e = (result, change.apply s) ∧
    server.answer a.conditions t a.request e = (result, change.apply t)

/-- What is answered without a look at the store is answered alike. -/
theorem answersAlike_of_const {server : Server} {e : Endpoint}
    {result : Except ProtocolError Response} (s t : Store)
    (h : ∀ store, server.answer a.conditions store a.request e = (result, store)) :
    server.AnswersAlike a s t e :=
  ⟨result, .nothing, .nothing, h s, h t⟩

/-- **A registration sees nothing of the store.** -/
theorem answersAlike_registration (s t : Store) (h : a.request.Posts .registration) :
    server.AnswersAlike a s t .registration := by
  rcases answerRegistration_cases server.config a.conditions a.request.readBody with
    ⟨error, -, hanswer⟩ | ⟨uris, method, -, -, hanswer⟩
  · exact answersAlike_of_const s t hanswer
  · exact ⟨_, .insertClient (.register a.conditions uris method),
      .insertClient (Arrival.enrolled?_of_posts h), hanswer s, hanswer t⟩

/-- **A request for a code sees the redirect URIs of the client that it names.** -/
theorem answersAlike_authorization (h : a.request.LooksAt .authorization)
    (hsees : a.SeesAlike s t) : server.AnswersAlike a s t .authorization := by
  have hcongr : a.authorization.check s = a.authorization.check t :=
    AuthorizationRequest.check_congr (hsees.redirectUris _ (Arrival.named?_of_looksAt h))
  have hs := server.answer_authorization s a
  have ht := server.answer_authorization t a
  rw [← hcongr] at ht
  cases hcheck : a.authorization.check s with
  | error error =>
    rw [hcheck] at hs ht
    exact ⟨_, .nothing, .nothing, hs, ht⟩
  | ok _ =>
    rw [hcheck] at hs ht
    by_cases hsafe : Response.isHeaderSafe a.location = true
    · simp only [if_pos hsafe] at hs ht
      exact ⟨_, .putCode a.drawnCode a.drawnGrant, .putCode (Arrival.drawn?_of_looksAt h), hs, ht⟩
    · simp only [if_neg hsafe] at hs ht
      exact ⟨_, .nothing, .nothing, hs, ht⟩

/-- **A request for a token sees the code that it shows.** -/
theorem answersAlike_token (h : a.request.Posts .token) (hsees : a.SeesAlike s t) :
    server.AnswersAlike a s t .token := by
  cases hbody : a.request.readBody with
  | none =>
    have hanswer : ∀ store, server.answer a.conditions store a.request .token
        = (.error (.invalidRequest none), store) := by
      intro store
      rw [answer, answerRedemption, hbody]
    exact answersAlike_of_const s t hanswer
  | some body =>
    by_cases htype : a.redemption.grantType = TokenRequest.codeGrantType
    · have hshown := Arrival.shown?_of_posts h htype
      obtain ⟨result, change, hchange, hredeem, hredeem'⟩ := Store.redeem_congr
        (hsees.grant _ hshown) a.conditions.now a.redemption.check
      have hmakes : a.MayMake change := by
        rcases hchange with rfl | rfl
        · exact .nothing
        · exact .eraseCode hshown
      have hs := server.answer_of_grantType_eq s hbody htype
      have ht := server.answer_of_grantType_eq t hbody htype
      rw [hredeem] at hs
      rw [hredeem'] at ht
      cases result with
      | error error => exact ⟨_, change, hmakes, hs, ht⟩
      | ok grant =>
        -- The token is signed, or not, in the same way.
        cases htoken : server.tokens.issueAt grant.resource grant.scope a.conditions.signedAt with
        | error error =>
          simp only [htoken] at hs ht
          exact ⟨_, change, hmakes, hs, ht⟩
        | ok token =>
          simp only [htoken] at hs ht
          exact ⟨_, change, hmakes, hs, ht⟩
    · exact answersAlike_of_const s t fun store => server.answer_of_grantType_ne store hbody htype

theorem answersAlike {e : Endpoint} (hpath : a.request.target.path = e.path)
    (hserves : e.serves a.request.method = true) (h : a.SeesAlike s t) :
    server.AnswersAlike a s t e := by
  cases e with
  | health => exact answersAlike_of_const s t fun _ => rfl
  | metadata => exact answersAlike_of_const s t fun _ => rfl
  | keys => exact answersAlike_of_const s t fun _ => rfl
  | registration => exact server.answersAlike_registration s t (.of_serves hpath hserves rfl)
  | authorization => exact server.answersAlike_authorization (.of_serves hpath hserves rfl) h
  | token => exact server.answersAlike_token (.of_serves hpath hserves rfl) h

/-- **Stores that look alike to a request are treated alike**: the response is the same, and the
same change is made. -/
theorem exchange_congr (h : a.SeesAlike s t) :
    ∃ (response : Response) (change : Store.Change), a.MayMake change ∧
      server.exchange s a = ⟨a, s, response, change.apply s⟩ ∧
      server.exchange t a = ⟨a, t, response, change.apply t⟩ := by
  by_cases hunserved : ∀ e : Endpoint, a.request.target.path = e.path →
      e.serves a.request.method = false
  · obtain ⟨response, -, hhandle⟩ := server.exists_handle_unserved a.request hunserved
    exact ⟨response, .nothing, .nothing, exchange_of_handle (hhandle a.conditions s),
      exchange_of_handle (hhandle a.conditions t)⟩
  · obtain ⟨e, hpath, hserves⟩ : ∃ e : Endpoint, a.request.target.path = e.path ∧
        e.serves a.request.method = true := by
      simpa using hunserved
    obtain ⟨result, change, hmakes, hs, ht⟩ := server.answersAlike hpath hserves h
    have hhandle := fun store => server.handle_served a.conditions store hpath hserves
    refine ⟨finish a.request (.ofResult result), change, hmakes, exchange_of_handle ?_,
      exchange_of_handle ?_⟩
    · rw [hhandle s, hs]
    · rw [hhandle t, ht]

end Server

end CodeGrant
