import Mathlib.Data.List.Nodup
import CodeGrant.Proofs.Rsa.Prime
import CodeGrant.Proofs.Server.Outcome
import CodeGrant.Proofs.Token.Compact

/-! # Runs

A run is what a server makes of requests that arrive one after another
(`Server.run`); it leaves a store behind (`Server.storeAfter`).  A run of requests
that come in two batches is the run of the first batch and, from the store behind it,
the run of the second.

What a run has done is read off its exchanges: the codes that were issued, with their
grants (`Run.issued`), the codes that are gone (`Run.usedUp`), and the identifiers that
were given to clients (`Run.registered`). -/

namespace CodeGrant

open Http (Request)

/-! ## How a store starts -/

/-- A server starts without codes. -/
theorem Store.grant?_initial (start : Instant) (code : String) :
    (Store.initial start).grant? code = none := by
  rw [Store.initial, Store.grant?_insertClient, Store.grant?, Std.ExtTreeMap.getElem?_empty]

/-- The sample client is known from the start. -/
theorem Store.client?_initial (start : Instant) (id : String) :
    (Store.initial start).client? id =
      if "sample-client" = id then some (Client.sample start) else none := by
  rw [Store.initial, Store.client?_insertClient, Store.client?, Std.ExtTreeMap.getElem?_empty]
  rfl

/-! ## Runs -/

namespace Server

variable (server : Server)

/-- The exchanges of requests that arrive one after another. -/
def run (store : Store) : List Arrival → List Exchange
  | [] => []
  | a :: arrivals => server.exchange store a :: run (server.exchange store a).after arrivals

/-- The store behind the run. -/
def storeAfter (store : Store) : List Arrival → Store
  | [] => store
  | a :: arrivals => storeAfter (server.exchange store a).after arrivals

@[simp] theorem run_nil (store : Store) : server.run store [] = [] := rfl

@[simp] theorem run_cons (store : Store) (a : Arrival) (arrivals : List Arrival) :
    server.run store (a :: arrivals) =
      server.exchange store a :: server.run (server.exchange store a).after arrivals :=
  rfl

@[simp] theorem storeAfter_nil (store : Store) : server.storeAfter store [] = store := rfl

@[simp] theorem storeAfter_cons (store : Store) (a : Arrival) (arrivals : List Arrival) :
    server.storeAfter store (a :: arrivals) =
      server.storeAfter (server.exchange store a).after arrivals :=
  rfl

theorem storeAfter_append (store : Store) (first second : List Arrival) :
    server.storeAfter store (first ++ second) =
      server.storeAfter (server.storeAfter store first) second := by
  induction first generalizing store with
  | nil => rfl
  | cons a first ih => exact ih _

/-- **A run of two batches is a run of the one and then of the other.** -/
theorem run_append (store : Store) (first second : List Arrival) :
    server.run store (first ++ second) =
      server.run store first ++ server.run (server.storeAfter store first) second := by
  induction first generalizing store with
  | nil => rfl
  | cons a first ih =>
    rw [List.cons_append, run_cons, ih, run_cons, storeAfter_cons, List.cons_append]

/-- Each exchange of a run starts from the store behind the run so far. -/
theorem getElem?_run {store : Store} {arrivals : List Arrival} {i : Nat} {x : Exchange}
    (h : (server.run store arrivals)[i]? = some x) : ∃ a, arrivals[i]? = some a ∧
      x = server.exchange (server.storeAfter store (arrivals.take i)) a := by
  induction arrivals generalizing store i with
  | nil => cases h
  | cons a arrivals ih =>
    cases i with
    | zero =>
      cases h
      exact ⟨a, rfl, rfl⟩
    | succ i =>
      obtain ⟨b, hb, hx⟩ := ih h
      exact ⟨b, hb, hx⟩

/-- What each exchange of a run does. -/
theorem outcome_of_getElem?_run {store : Store} {arrivals : List Arrival} {i : Nat} {x : Exchange}
    (h : (server.run store arrivals)[i]? = some x) : x.Outcome server := by
  obtain ⟨a, -, rfl⟩ := server.getElem?_run h
  exact server.outcome_exchange _ a

/-- The run so far is the start of the run. -/
theorem run_take (store : Store) (arrivals : List Arrival) (i : Nat) :
    server.run store (arrivals.take i) = (server.run store arrivals).take i := by
  induction arrivals generalizing store i with
  | nil => simp
  | cons a arrivals ih =>
    cases i with
    | zero => rfl
    | succ i => simp [ih]

end Server

/-! ## What a run has done -/

namespace Exchange

/-- The code that was issued, with its grant. -/
def issued? (x : Exchange) : Option (String × Grant) :=
  if x.HandsOutCode then some (x.drawnCode, x.drawnGrant) else none

/-- The code that is gone. -/
def usedUp? (x : Exchange) : Option String :=
  if x.UsesUpCode then some x.redemption.code else none

/-- Whether a client was registered. -/
def RegistersClient (x : Exchange) : Prop :=
  x.request.Posts .registration ∧ (x.response.status = 201 ∨ x.response.status = 500)

instance (x : Exchange) : Decidable x.RegistersClient := inferInstanceAs (Decidable (_ ∧ _))

/-- The identifier that was given to a client. -/
def registered? (x : Exchange) : Option String :=
  if x.RegistersClient then some x.conditions.draws.clientIdText else none

theorem issued?_eq_some_iff {x : Exchange} {code : String} {grant : Grant} :
    x.issued? = some (code, grant) ↔
      x.HandsOutCode ∧ x.drawnCode = code ∧ x.drawnGrant = grant := by
  unfold issued?
  split <;> simp_all

theorem usedUp?_eq_some_iff {x : Exchange} {code : String} :
    x.usedUp? = some code ↔ x.UsesUpCode ∧ x.redemption.code = code := by
  unfold usedUp?
  split <;> simp_all

theorem registered?_eq_some_iff {x : Exchange} {id : String} :
    x.registered? = some id ↔ x.RegistersClient ∧ x.conditions.draws.clientIdText = id := by
  unfold registered?
  split <;> simp_all

end Exchange

namespace Run

/-- The codes that a run issued, with their grants. -/
def issued (xs : List Exchange) : List (String × Grant) := xs.filterMap Exchange.issued?

/-- The codes that a run issued. -/
def issuedCodes (xs : List Exchange) : List String := (issued xs).map Prod.fst

/-- The codes that are gone behind a run. -/
def usedUp (xs : List Exchange) : List String := xs.filterMap Exchange.usedUp?

/-- The identifiers that a run gave to clients. -/
def registered (xs : List Exchange) : List String := xs.filterMap Exchange.registered?

/-- What a run issued was drawn in one of its exchanges for what was asked there. -/
theorem mem_issued_iff {xs : List Exchange} {code : String} {grant : Grant} :
    (code, grant) ∈ issued xs ↔
      ∃ x ∈ xs, x.HandsOutCode ∧ x.drawnCode = code ∧ grant.Records x.toArrival := by
  simp only [issued, List.mem_filterMap, Exchange.issued?_eq_some_iff, Grant.records_iff]

theorem notMem_usedUp_iff {xs : List Exchange} {code : String} :
    code ∉ usedUp xs ↔ ∀ x ∈ xs, x.UsesUpCode → x.redemption.code ≠ code := by
  simp only [usedUp, List.mem_filterMap, Exchange.usedUp?_eq_some_iff, not_exists, not_and]

theorem mem_issued_cons {x : Exchange} {xs : List Exchange} {code : String} {grant : Grant} :
    (code, grant) ∈ issued (x :: xs) ↔ x.issued? = some (code, grant) ∨ (code, grant) ∈ issued xs := by
  simp [issued, List.mem_filterMap]

theorem mem_usedUp_cons {x : Exchange} {xs : List Exchange} {code : String} :
    code ∈ usedUp (x :: xs) ↔ x.usedUp? = some code ∨ code ∈ usedUp xs := by
  simp [usedUp, List.mem_filterMap]

theorem mem_issuedCodes_of_mem_issued {xs : List Exchange} {code : String} {grant : Grant}
    (h : (code, grant) ∈ issued xs) : code ∈ issuedCodes xs :=
  List.mem_map.mpr ⟨(code, grant), h, rfl⟩

/-- A code that is not issued is issued neither by the first exchange nor later. -/
theorem notMem_issuedCodes_cons_iff {x : Exchange} {xs : List Exchange} {code : String} :
    code ∉ issuedCodes (x :: xs) ↔
      (∀ grant, x.issued? ≠ some (code, grant)) ∧ code ∉ issuedCodes xs := by
  simp [issuedCodes, List.mem_map, mem_issued_cons, forall_and, not_or]

/-- Codes are issued once only if the first is not issued again, and so on. -/
theorem nodup_issuedCodes_cons_iff {x : Exchange} {xs : List Exchange} :
    (issuedCodes (x :: xs)).Nodup ↔
      (∀ code grant, x.issued? = some (code, grant) → code ∉ issuedCodes xs) ∧
        (issuedCodes xs).Nodup := by
  rw [issuedCodes, issued, List.filterMap_cons]
  cases x.issued? with
  | none => simp [issuedCodes, issued]
  | some issue => simp [issuedCodes, issued, Prod.ext_iff]

end Run

/-! ## A run to look at -/

namespace Sample

/-- A server on this machine. -/
def server : Server where
  config := .standard
  tokens := ⟨"http://localhost:9000", Rsa.provenKey⟩

/-- The clock stands still, and every byte that is drawn is zero. -/
def conditions : Conditions :=
  ⟨⟨0, 0⟩, ⟨0, 0⟩, ⟨Vector.replicate 16 0, Vector.replicate 32 0, Vector.replicate 32 0⟩⟩

/-- A client registers. -/
def enrol : Arrival where
  conditions := conditions
  request := ⟨"POST", ⟨"/register", none⟩, [],
    some (Utf8.encode "\x7b\"redirect_uris\":[\"http://a\"]\x7d")⟩

/-- What the sample client asks for. -/
def authorization : AuthorizationRequest :=
  ⟨"sample-client", "http://localhost:8081/callback", "code", Pkce.challenge "verifier", "S256",
    "http://localhost:9000/mcp", "", "read"⟩

/-- The sample client asks for a code. -/
def ask : Arrival where
  conditions := conditions
  request := ⟨"GET", ⟨"/oauth/authorize", some (Form.encode [("client_id", "sample-client"),
    ("redirect_uri", "http://localhost:8081/callback"), ("response_type", "code"),
    ("code_challenge", Pkce.challenge "verifier"), ("code_challenge_method", "S256"),
    ("resource", "http://localhost:9000/mcp"), ("scope", "read")])⟩, [], some []⟩

/-- A form that shows the code and a verifier. -/
def form (verifier : String) : Form.Params :=
  [("grant_type", "authorization_code"), ("code", conditions.draws.codeText),
    ("client_id", "sample-client"), ("code_verifier", verifier),
    ("resource", "http://localhost:9000/mcp")]

/-- A bearer shows the code and a verifier. -/
def bearer (verifier : String) : Arrival where
  conditions := conditions
  request := ⟨"POST", ⟨"/oauth/token", none⟩,
    [("content-type", Utf8.encode "application/x-www-form-urlencoded")],
    some (Utf8.encode (Form.encode (form verifier)))⟩

theorem authorization_ask : ask.authorization = authorization := by
  rw [Arrival.authorization_eq_ofParams rfl]
  simp [AuthorizationRequest.ofParams, Form.get_cons, authorization]

/-- What the code stands for. -/
def grant : Grant where
  clientId := "sample-client"
  redirectUri := "http://localhost:8081/callback"
  challenge := Pkce.challenge "verifier"
  challengeMethod := "S256"
  resource := "http://localhost:9000/mcp"
  scope := "read"
  expiresAt := ⟨600, 0⟩

theorem drawnGrant_ask : ask.drawnGrant = grant := by
  rw [Arrival.drawnGrant, authorization_ask]
  rfl

theorem mayHaveCode_ask (start : Instant) : ask.MayHaveCode (.initial start) where
  request := ⟨.inl rfl, rfl⟩
  check := by
    rw [authorization_ask, AuthorizationRequest.check_eq_ok_iff]
    refine ⟨⟨_, (Store.client?_initial start _).trans (if_pos rfl), ?_⟩, ?_⟩
    · exact List.mem_singleton.mpr rfl
    · exact ⟨rfl, Pkce.challenge_ne_empty _, rfl, by decide⟩
  location := by
    rw [Arrival.location, authorization_ask]
    exact (isHeaderSafe_redirectLocation _ _ _).trans (by decide)

theorem length_form :
    (Utf8.encode (Form.encode (form "verifier"))).length ≤ Request.bodyLimit :=
  (Form.length_encode_le _).trans (by decide +kernel)

theorem redemption_bearer : (bearer "verifier").redemption =
    ⟨"authorization_code", ask.drawnCode, "sample-client", "verifier",
      "http://localhost:9000/mcp", ""⟩ := by
  rw [Arrival.redemption_eq_ofParams (by decide +kernel) rfl length_form]
  simp [TokenRequest.ofParams, Form.get_cons, form, Arrival.drawnCode, ask]

theorem mayHaveToken_bearer : (bearer "verifier").MayHaveToken ask.drawnGrant := by
  refine ⟨⟨rfl, rfl⟩, by rw [redemption_bearer]; rfl, by decide, ?_⟩
  rw [Arrival.drawnGrant, authorization_ask, TokenRequest.check_grant_eq_ok_iff, redemption_bearer]
  exact ⟨rfl, .inl rfl, by decide, rfl, rfl⟩

/-- The bearer finds the code in the store behind the request for it. -/
theorem grant?_bearer {store after : Store} (h : after = store.putCode ask.drawnCode ask.drawnGrant) :
    after.grant? (bearer "verifier").redemption.code = some ask.drawnGrant := by
  rw [redemption_bearer, h, Store.grant?_putCode, if_pos rfl]

/-- The key of the server signs every token. -/
theorem exists_issueAt (audience scope : String) (now : Instant) :
    ∃ text, server.tokens.issueAt audience scope now = .ok text :=
  TokenIssuer.exists_issueAt audience scope now Rsa.fault?_provenKey

end Sample

end CodeGrant
