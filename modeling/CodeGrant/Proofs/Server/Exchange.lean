import CodeGrant.Proofs.Authorization
import CodeGrant.Proofs.Redemption
import CodeGrant.Proofs.Server.Bodies

/-! # What one request does

An exchange is a request with the conditions under which it is handled, the response,
and the store before and after it.  It does one of five things (`Exchange.Outcome`):
it leaves the store alone, registers a client, issues a code, drops a code that has
expired, or redeems a code.  Each of the five comes with all that was checked first and
with what the response tells, so that what holds of a run follows from the five cases.

What is asked for and what is shown are read by the names of their parameters, and what a
code stands for is a record of what was asked (`Grant.Records`).

What happened to a code can be told from outside: `Exchange.HandsOutCode` and
`Exchange.UsesUpCode` look at the request and at the response, and at no store. -/

namespace CodeGrant

open Http (Request Response)

/-! ## Requests -/

namespace Http.Request

/-- Whether the request is posted to an endpoint. -/
def Posts (request : Request) (e : Endpoint) : Prop :=
  request.method = "POST" ∧ request.target.path = e.path

/-- Whether the request looks at an endpoint. -/
def LooksAt (request : Request) (e : Endpoint) : Prop :=
  (request.method = "GET" ∨ request.method = "HEAD") ∧ request.target.path = e.path

instance (request : Request) (e : Endpoint) : Decidable (request.Posts e) :=
  inferInstanceAs (Decidable (_ ∧ _))

instance (request : Request) (e : Endpoint) : Decidable (request.LooksAt e) :=
  inferInstanceAs (Decidable (_ ∧ _))

/-- A body is not read if reading it failed, or if it is too long. -/
theorem readBody_eq_none_iff {request : Request} : request.readBody = none ↔
    request.body = none ∨ ∃ bytes, request.body = some bytes ∧ 2097152 < bytes.length := by
  rw [readBody, Option.filter_eq_none_iff]
  cases request.body with
  | none => simp
  | some bytes =>
    simp only [Option.some.injEq, forall_eq', decide_eq_true_eq, Nat.not_le, reduceCtorEq,
      false_or, exists_eq_left']
    rfl

/-- A body that is read is the body. -/
theorem body_of_readBody {request : Request} {bytes : Bytes} (h : request.readBody = some bytes) :
    request.body = some bytes :=
  (Option.filter_eq_some_iff.mp h).1

end Http.Request

/-- **A bearer passes who shows what was asked for.** -/
theorem TokenRequest.check_grant_eq_ok_iff {request : TokenRequest}
    {authorization : AuthorizationRequest} {now : Instant} :
    request.check (authorization.grant now) = .ok () ↔
      request.clientId = authorization.clientId ∧ (request.redirectUri = "" ∨
        request.redirectUri = authorization.redirectUri) ∧ request.resource ≠ "" ∧
        request.resource = authorization.resource ∧
        Pkce.challenge request.verifier = authorization.challenge :=
  check_eq_ok_iff

/-- A request and the conditions under which it is handled. -/
structure Arrival where
  conditions : Conditions
  request : Request
  deriving DecidableEq, Repr

namespace Arrival

/-- The first value that the query gives for a name, empty if it gives none. -/
def queried (a : Arrival) (name : String) : String :=
  Form.get (Form.decode (Utf8.encode (a.request.target.query.getD ""))) name

/-- What is asked for by one who wants a code. -/
def authorization (a : Arrival) : AuthorizationRequest where
  clientId := a.queried "client_id"
  redirectUri := a.queried "redirect_uri"
  responseType := a.queried "response_type"
  challenge := a.queried "code_challenge"
  challengeMethod := a.queried "code_challenge_method"
  resource := a.queried "resource"
  state := a.queried "state"
  scope := a.queried "scope"

/-- The code that is drawn for the request. -/
def drawnCode (a : Arrival) : String := a.conditions.draws.codeText

/-- What that code would stand for. -/
def drawnGrant (a : Arrival) : Grant := a.authorization.grant a.conditions.now

/-- Where the browser would be sent with that code. -/
def location (a : Arrival) : String :=
  redirectLocation a.authorization.redirectUri a.drawnCode a.authorization.state

/-- The first value that the form in the body gives for a name, empty if it gives none.  A body that
is no form or is not read gives none. -/
def posted (a : Arrival) (name : String) : String :=
  Form.get (if TokenRequest.hasForm a.request then Form.decode (a.request.readBody.getD []) else [])
    name

/-- What is shown by one who redeems a code. -/
def redemption (a : Arrival) : TokenRequest where
  grantType := a.posted "grant_type"
  code := a.posted "code"
  clientId := a.posted "client_id"
  verifier := a.posted "code_verifier"
  resource := a.posted "resource"
  redirectUri := a.posted "redirect_uri"

/-- All that it takes to be issued a code. -/
structure MayHaveCode (a : Arrival) (store : Store) : Prop where
  request : a.request.LooksAt .authorization
  check : a.authorization.check store = .ok ()
  location : Response.isHeaderSafe a.location = true

/-- All that it takes to redeem the code of a grant. -/
structure MayHaveToken (a : Arrival) (grant : Grant) : Prop where
  request : a.request.Posts .token
  grantType : a.redemption.grantType = TokenRequest.codeGrantType
  live : grant.isExpiredAt a.conditions.now = false
  check : a.redemption.check grant = .ok ()

/-- The server reads the query for what is asked for. -/
theorem authorization_eq_ofQuery (a : Arrival) : a.authorization = .ofQuery a.request.target.query :=
  rfl

/-- What is asked for in a query reads as it was written. -/
theorem authorization_eq_ofParams {a : Arrival} {params : Form.Params}
    (h : a.request.target.query = some (Form.encode params)) : a.authorization = .ofParams params := by
  rw [authorization_eq_ofQuery, h, AuthorizationRequest.ofQuery_encode]

/-- The server reads the body for what is shown. -/
theorem redemption_eq_ofBody (a : Arrival) :
    a.redemption = .ofBody a.request (a.request.readBody.getD []) := rfl

/-- What is shown in a form that is not too long reads as it was written. -/
theorem redemption_eq_ofParams {a : Arrival} {params : Form.Params}
    (hform : TokenRequest.hasForm a.request = true)
    (hbody : a.request.body = some (Utf8.encode (Form.encode params)))
    (hlength : (Utf8.encode (Form.encode params)).length ≤ Request.bodyLimit) :
    a.redemption = .ofParams params := by
  have hread : a.request.readBody = some (Utf8.encode (Form.encode params)) := by
    rw [Request.readBody, hbody, Option.filter_some, decide_eq_true hlength, if_pos rfl]
  rw [redemption_eq_ofBody, hread, Option.getD_some, TokenRequest.ofBody_encode hform]

end Arrival

/-- Whether a grant records what is asked for, for ten minutes. -/
structure Grant.Records (grant : Grant) (a : Arrival) : Prop where
  clientId : grant.clientId = a.queried "client_id"
  redirectUri : grant.redirectUri = a.queried "redirect_uri"
  challenge : grant.challenge = a.queried "code_challenge"
  challengeMethod : grant.challengeMethod = a.queried "code_challenge_method"
  resource : grant.resource = a.queried "resource"
  scope : grant.scope = a.queried "scope"
  expiresAt : grant.expiresAt = a.conditions.now.addSeconds 600

/-- **A drawn code stands for the record of what is asked for.** -/
theorem Arrival.records_drawnGrant (a : Arrival) : a.drawnGrant.Records a := by
  constructor <;> simp only [drawnGrant, AuthorizationRequest.grant, authorization,
    Grant.lifetime, Nat.cast_ofNat]

/-- What is asked for has only one record. -/
theorem Grant.Records.unique {grant other : Grant} {a : Arrival} (h : grant.Records a)
    (h' : other.Records a) : grant = other := by
  rw [Grant.mk.injEq]
  exact ⟨h.clientId.trans h'.clientId.symm, h.redirectUri.trans h'.redirectUri.symm,
    h.challenge.trans h'.challenge.symm, h.challengeMethod.trans h'.challengeMethod.symm,
    h.resource.trans h'.resource.symm, h.scope.trans h'.scope.symm,
    h.expiresAt.trans h'.expiresAt.symm⟩

theorem Grant.records_iff {grant : Grant} {a : Arrival} :
    grant.Records a ↔ a.drawnGrant = grant := by
  constructor
  · exact a.records_drawnGrant.unique
  · rintro rfl
    exact a.records_drawnGrant

/-! ## Exchanges -/

/-- A request that has been answered, with the store before and after it. -/
structure Exchange extends Arrival where
  before : Store
  response : Response
  after : Store

/-- Answers a request. -/
def Server.exchange (server : Server) (store : Store) (arrival : Arrival) : Exchange :=
  ⟨arrival, store, (server.handle arrival.conditions store arrival.request).1,
    (server.handle arrival.conditions store arrival.request).2⟩

/-- The documents that anybody may read. -/
def Server.publicDocuments (server : Server) : List Json :=
  [healthDocument, server.config.metadata, server.tokens.publicKeys.document]

namespace Exchange

/-- Whether the browser is sent on from the authorization endpoint. -/
def HandsOutCode (x : Exchange) : Prop :=
  x.request.target.path = Endpoint.authorization.path ∧ x.response.status = 302

/-- The words for a code that has expired. -/
def expiredBody : String :=
  (Json.ofError "invalid_grant" (some "authorization code expired")).render

theorem render_codeExpired : ProtocolError.codeExpired.document.render = expiredBody := by
  rw [ProtocolError.document_eq]
  rfl

/-- Whether the bearer of a code is told that the code is gone: by a token, by an error on the side
of the server, or by the words for a code that has expired. -/
def UsesUpCode (x : Exchange) : Prop :=
  x.request.Posts .token ∧ (x.response.status = 200 ∨ x.response.status = 500 ∨
    (x.response.status = 400 ∧ x.response.body = expiredBody))

instance (x : Exchange) : Decidable x.HandsOutCode := inferInstanceAs (Decidable (_ ∧ _))

instance (x : Exchange) : Decidable x.UsesUpCode := inferInstanceAs (Decidable (_ ∧ _))

/-- The store stays as it is. -/
structure IsQuiet (server : Server) (x : Exchange) : Prop where
  after : x.after = x.before
  noCode : ¬ x.MayHaveCode x.before
  noToken : ∀ grant, x.before.grant? x.redemption.code = some grant → ¬ x.MayHaveToken grant
  handsOut : ¬ x.HandsOutCode
  usesUp : ¬ x.UsesUpCode
  success : x.response.status = 200 →
    x.response.body = "" ∨ ∃ document ∈ server.publicDocuments, x.response.body = document.render

/-- A client is registered. -/
structure Registers (x : Exchange) (uris : List String) (method : Option String) : Prop where
  request : x.request.Posts .registration
  uris_ne_nil : uris ≠ []
  http : uris.all isHttpUri = true
  after : x.after = x.before.insertClient (.register x.conditions uris method)
  status : x.response.status = 201 ∨ x.response.status = 500

/-- A code is issued. -/
structure Issues (x : Exchange) : Prop extends x.MayHaveCode x.before where
  after : x.after = x.before.putCode x.drawnCode x.drawnGrant
  status : x.response.status = 302
  header : ("location", x.location) ∈ x.response.headers

/-- A code has expired and is dropped. -/
structure Expires (x : Exchange) (grant : Grant) : Prop where
  request : x.request.Posts .token
  known : x.before.grant? x.redemption.code = some grant
  expired : grant.isExpiredAt x.conditions.now = true
  after : x.after = x.before.eraseCode x.redemption.code
  status : x.response.status = 400
  body : x.response.body = expiredBody

/-- The token that is issued for a grant, if the key of the server is good. -/
def token (server : Server) (x : Exchange) (grant : Grant) : Except IssuerError String :=
  server.tokens.issueAt grant.resource grant.scope x.conditions.signedAt

/-- A code is redeemed, for a token if one can be signed. -/
structure Redeems (server : Server) (x : Exchange) (grant : Grant) : Prop
    extends x.MayHaveToken grant where
  known : x.before.grant? x.redemption.code = some grant
  after : x.after = x.before.eraseCode x.redemption.code
  success : ∀ token, x.token server grant = .ok token → x.response.status = 200 ∧
    x.response.body = (Json.ofToken token grant.scope).render
  failure : ∀ error, x.token server grant = .error error → x.response.status = 500

/-- What an exchange does. -/
inductive Outcome (server : Server) (x : Exchange) : Prop
  | quiet (h : x.IsQuiet server)
  | registers {uris : List String} {method : Option String} (h : x.Registers uris method)
  | issues (h : x.Issues)
  | expires {grant : Grant} (h : x.Expires grant)
  | redeems {grant : Grant} (h : x.Redeems server grant)

end Exchange

/-! ## What the response tells -/

namespace Exchange

variable {server : Server} {x : Exchange} {e : Endpoint} {grant : Grant}

/-- No code is handed out at another endpoint. -/
theorem not_handsOut_of_path (hpath : x.request.target.path = e.path) (he : e ≠ .authorization) :
    ¬ x.HandsOutCode := fun h =>
  he (Endpoint.path_injective (hpath.symm.trans h.1))

/-- No code is used up at another endpoint. -/
theorem not_usesUp_of_path (hpath : x.request.target.path = e.path) (he : e ≠ .token) :
    ¬ x.UsesUpCode := fun h =>
  he (Endpoint.path_injective (hpath.symm.trans h.1.2))

theorem Issues.handsOut (h : x.Issues) : x.HandsOutCode := ⟨h.request.2, h.status⟩

theorem Expires.usesUp (h : x.Expires grant) : x.UsesUpCode :=
  ⟨h.request, .inr (.inr ⟨h.status, h.body⟩)⟩

theorem Redeems.usesUp (h : x.Redeems server grant) : x.UsesUpCode := by
  refine ⟨h.request, ?_⟩
  cases htoken : x.token server grant with
  | ok token => exact .inl (h.success token htoken).1
  | error error => exact .inr (.inl (h.failure error htoken))

namespace Outcome

/-- **A redirect from the authorization endpoint issues a code.** -/
theorem issues_of_handsOut (h : x.Outcome server) (hissued : x.HandsOutCode) : x.Issues := by
  cases h with
  | quiet h => exact absurd hissued h.handsOut
  | registers h => exact absurd hissued (not_handsOut_of_path h.request.2 (by decide))
  | issues h => exact h
  | expires h => exact absurd hissued (not_handsOut_of_path h.request.2 (by decide))
  | redeems h => exact absurd hissued (not_handsOut_of_path h.request.2 (by decide))

/-- **A code that is told to be gone was there and is gone.** -/
theorem erase_of_usesUp (h : x.Outcome server) (hused : x.UsesUpCode) :
    (∃ grant, x.before.grant? x.redemption.code = some grant) ∧
      x.after = x.before.eraseCode x.redemption.code := by
  cases h with
  | quiet h => exact absurd hused h.usesUp
  | registers h => exact absurd hused (not_usesUp_of_path h.request.2 (by decide))
  | issues h => exact absurd hused (not_usesUp_of_path h.request.2 (by decide))
  | expires h => exact ⟨⟨_, h.known⟩, h.after⟩
  | redeems h => exact ⟨⟨_, h.known⟩, h.after⟩

/-- **Any other answer leaves the codes as they are.** -/
theorem grants_after (h : x.Outcome server) (hissued : ¬ x.HandsOutCode) (hused : ¬ x.UsesUpCode) :
    x.after.grants = x.before.grants := by
  cases h with
  | quiet h => rw [h.after]
  | registers h => rw [h.after, Store.insertClient]
  | issues h => exact absurd h.handsOut hissued
  | expires h => exact absurd h.usesUp hused
  | redeems h => exact absurd h.usesUp hused

/-- **Only what is posted to the registration endpoint changes the clients.** -/
theorem clients_after (h : x.Outcome server) (hposts : ¬ x.request.Posts .registration) :
    x.after.clients = x.before.clients := by
  cases h with
  | quiet h => rw [h.after]
  | registers h => exact absurd h.request hposts
  | issues h => rw [h.after, Store.putCode]
  | expires h => rw [h.after, Store.eraseCode]
  | redeems h => rw [h.after, Store.eraseCode]

end Outcome

end Exchange

end CodeGrant
