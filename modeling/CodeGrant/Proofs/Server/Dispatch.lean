import CodeGrant.Proofs.Server.Exchange

/-! # How a request finds its endpoint

A request is handled by what its path and its method are: `Server.handle` has one
equation for a path that is no endpoint, one for a preflight, one for a method that is
not served and one for a method that is.  The last touches to a response keep its status
and its location. -/

namespace CodeGrant

open Http (Request Response)

namespace Endpoint

/-- No endpoint serves `OPTIONS`, which is answered before. -/
theorem ne_options_of_serves {e : Endpoint} {method : String} (h : e.serves method = true) :
    method ≠ "OPTIONS" := by
  rintro rfl
  revert h
  cases e <;> decide

end Endpoint

namespace Http

variable {request : Request} {e : Endpoint}

theorem Request.Posts.serves (h : request.Posts e) (he : e.isPosted = true) :
    e.serves request.method = true := by
  rw [h.1, Endpoint.serves, Endpoint.methods, if_pos he]
  decide

theorem Request.LooksAt.serves (h : request.LooksAt e) (he : e.isPosted = false) :
    e.serves request.method = true := by
  rw [Endpoint.serves, Endpoint.methods, he]
  rcases h.1 with hmethod | hmethod <;> rw [hmethod] <;> decide

theorem Request.Posts.of_serves (hpath : request.target.path = e.path)
    (hserves : e.serves request.method = true) (he : e.isPosted = true) : request.Posts e := by
  rw [Endpoint.serves, Endpoint.methods, if_pos he] at hserves
  exact ⟨by simpa using hserves, hpath⟩

theorem Request.LooksAt.of_serves (hpath : request.target.path = e.path)
    (hserves : e.serves request.method = true) (he : e.isPosted = false) :
    request.LooksAt e := by
  rw [Endpoint.serves, Endpoint.methods, he] at hserves
  exact ⟨by simpa using hserves, hpath⟩

/-- What is set in a response stays, unless the same field is set again. -/
theorem Response.mem_headers_setHeader {response : Response} {key text name : String}
    (value : String) (h : (key, text) ∈ response.headers) (hne : key ≠ name) :
    (key, text) ∈ (response.setHeader name value).headers :=
  List.mem_append_left _ (List.mem_filter.mpr ⟨h, bne_iff_ne.mpr hne⟩)

end Http

namespace Server

variable (server : Server) (conditions : Conditions) (store : Store) {request : Request}

@[simp] theorem status_finish (request : Request) (response : Response) :
    (finish request response).status = response.status := by
  unfold finish
  split <;> rfl

theorem body_finish (request : Request) (response : Response) :
    (finish request response).body = if request.method = "HEAD" then "" else response.body := by
  unfold finish
  split <;> rfl

/-- **A document is said to whoever does not ask with `HEAD`.** -/
theorem saidBy_finish {response : Response} {document : Json} (hmethod : request.method ≠ "HEAD")
    (hbody : response.body = document.render) :
    document.SaidBy (finish request response).body := by
  rw [body_finish, if_neg hmethod, hbody]
  exact document.saidBy_render

/-- The last touches leave the location of a redirect alone. -/
theorem location_mem_finish (request : Request) {response : Response} {location : String}
    (h : ("location", location) ∈ response.headers) :
    ("location", location) ∈ (finish request response).headers := by
  have hlength : ("location", location) ∈ response.withLength.headers :=
    Response.mem_headers_setHeader _ h (by decide)
  have hcors : ("location", location) ∈ response.withLength.withCors.headers :=
    Response.mem_headers_setHeader _ (Response.mem_headers_setHeader _
      (Response.mem_headers_setHeader _ (Response.mem_headers_setHeader _ hlength
        (by decide)) (by decide)) (by decide)) (by decide)
  unfold finish
  split
  · exact hcors
  · exact hcors

theorem handle_elsewhere (h : Endpoint.ofPath? request.target.path = none) :
    server.handle conditions store request = (finish request (respondElsewhere request), store) := by
  rw [handle, h]

theorem handle_preflight {e : Endpoint} (h : request.target.path = e.path)
    (hmethod : request.method = "OPTIONS") : server.handle conditions store request =
      (finish request ((Response.empty 204).withAllow e), store) := by
  rw [handle, (Endpoint.ofPath?_eq_some_iff _ _).mpr h]
  simp only [respond, if_pos hmethod]

theorem handle_unserved {e : Endpoint} (h : request.target.path = e.path)
    (hmethod : request.method ≠ "OPTIONS") (hserves : e.serves request.method = false) :
    server.handle conditions store request =
      (finish request ((Response.ofError .methodNotAllowed).withAllow e), store) := by
  rw [handle, (Endpoint.ofPath?_eq_some_iff _ _).mpr h]
  simp only [respond, if_neg hmethod, hserves, Bool.false_eq_true, if_false]

/-- A method that an endpoint serves is answered by the endpoint. -/
theorem handle_served {e : Endpoint} (h : request.target.path = e.path)
    (hserves : e.serves request.method = true) : server.handle conditions store request =
      (finish request (.ofResult (server.answer conditions store request e).1),
        (server.answer conditions store request e).2) := by
  rw [handle, (Endpoint.ofPath?_eq_some_iff _ _).mpr h]
  simp only [respond, if_neg (Endpoint.ne_options_of_serves hserves), hserves, if_true]

/-- **What reaches no endpoint is answered without a look at the store**, or at anything else but
the request. -/
theorem exists_handle_unserved (server : Server) (request : Request) (h : ∀ e : Endpoint,
    request.target.path = e.path → e.serves request.method = false) :
    ∃ response : Response, response.status ∈ [204, 404, 405] ∧
      ∀ conditions store, server.handle conditions store request = (response, store) := by
  cases hpath : Endpoint.ofPath? request.target.path with
  | none =>
    refine ⟨_, ?_, fun conditions store => server.handle_elsewhere conditions store hpath⟩
    rw [status_finish, respondElsewhere]
    split <;> decide
  | some e =>
    have hpath := (Endpoint.ofPath?_eq_some_iff _ _).mp hpath
    by_cases hmethod : request.method = "OPTIONS"
    · refine ⟨_, ?_, fun conditions store => server.handle_preflight conditions store hpath hmethod⟩
      rw [status_finish, Response.withAllow, Response.status_setHeader]
      decide
    · refine ⟨_, ?_, fun conditions store =>
        server.handle_unserved conditions store hpath hmethod (h e hpath)⟩
      rw [status_finish, Response.withAllow, Response.status_setHeader]
      decide

end Server

/-! ## Quiet exchanges -/

namespace Exchange

variable {server : Server} {x : Exchange} {e : Endpoint}

/-- An exchange at another endpoint has nothing to do with codes. -/
theorem isQuiet_of_path (hpath : x.request.target.path = e.path) (hcode : e ≠ .authorization)
    (htoken : e ≠ .token) (hafter : x.after = x.before)
    (hsuccess : x.response.status = 200 → x.response.body = "" ∨
      ∃ document ∈ server.publicDocuments, x.response.body = document.render) :
    x.IsQuiet server where
  after := hafter
  noCode h := hcode (Endpoint.path_injective (hpath.symm.trans h.request.2))
  noToken _ _ h := htoken (Endpoint.path_injective (hpath.symm.trans h.request.2))
  handsOut := Exchange.not_handsOut_of_path hpath hcode
  usesUp := Exchange.not_usesUp_of_path hpath htoken
  success := hsuccess

/-- A refusal changes nothing, unless it says that a code has expired. -/
theorem isQuiet_of_refused (hafter : x.after = x.before) (hstatus : x.response.status = 400)
    (hcode : ¬ x.MayHaveCode x.before)
    (htoken : ∀ grant, x.before.grant? x.redemption.code = some grant → ¬ x.MayHaveToken grant)
    (hlive : x.request.Posts .token → x.response.body ≠ expiredBody) : x.IsQuiet server where
  after := hafter
  noCode := hcode
  noToken := htoken
  handsOut h := absurd (hstatus.symm.trans h.2) (by decide)
  usesUp h := by
    rcases h.2 with h200 | h500 | ⟨-, hexpired⟩
    · exact absurd (hstatus.symm.trans h200) (by decide)
    · exact absurd (hstatus.symm.trans h500) (by decide)
    · exact hlive h.1 hexpired
  success h := absurd (hstatus.symm.trans h) (by decide)

/-- An exchange that reaches no endpoint changes nothing. -/
theorem isQuiet_of_unserved (hserves : ∀ e : Endpoint, x.request.target.path = e.path →
      e.serves x.request.method = false)
    (hstatus : x.response.status ∈ [204, 404, 405]) (hafter : x.after = x.before) :
    x.IsQuiet server where
  after := hafter
  noCode h := by
    have := hserves _ h.request.2
    rw [h.request.serves rfl] at this
    cases this
  noToken _ _ h := by
    have := hserves _ h.request.2
    rw [h.request.serves rfl] at this
    cases this
  handsOut h := by
    rw [h.2] at hstatus
    exact absurd hstatus (by decide)
  usesUp h := by
    have := hserves _ h.1.2
    rw [h.1.serves rfl] at this
    cases this
  success h := by
    rw [h] at hstatus
    exact absurd hstatus (by decide)

end Exchange

namespace Server

variable (server : Server) (store : Store) {a : Arrival}

theorem exchange_of_handle {server : Server} {store after : Store} {response : Response}
    (h : server.handle a.conditions store a.request = (response, after)) :
    server.exchange store a = ⟨a, store, response, after⟩ := by
  rw [exchange, h]

/-- A path that is no endpoint, a preflight and a method that is not served come to nothing. -/
theorem isQuiet_exchange_unserved (h : ∀ e : Endpoint, a.request.target.path = e.path →
    e.serves a.request.method = false) : (server.exchange store a).IsQuiet server := by
  obtain ⟨response, hstatus, hhandle⟩ := server.exists_handle_unserved a.request h
  rw [exchange_of_handle (hhandle a.conditions store)]
  exact Exchange.isQuiet_of_unserved h hstatus rfl

end Server

end CodeGrant
