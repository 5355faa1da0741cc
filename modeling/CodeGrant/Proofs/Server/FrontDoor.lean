import CodeGrant.Proofs.Json.Written
import CodeGrant.Proofs.Server.Outcome

/-! # The front door

Whatever comes in, something proper goes out (`Server.frontDoor_exchange`).  A preflight, a
path that is no endpoint and a method that is not served never reach the store.  Any page may
read the response.  Unless the response is a redirect or has nothing to say, it is a JSON
document, and a failure says by which of ten codes it goes.  A `HEAD` request gets what a
`GET` request gets, without the body.

The endpoints hand on proper responses (`isProper_ofResult_answer`), and the last touches
keep them so, since they set other header fields than the one for the type of the body. -/

namespace CodeGrant

open Http (Request Response)

/-! ## Errors -/

/-- Whether a document tells of an error that goes by a status: it is an object with the code and at
most a description. -/
def Json.TellsError (document : Json) (status : Nat) : Prop :=
  ∃ code description?, (code, status) ∈ ProtocolError.wireCodes ∧
    document = .ofError code description?

theorem ProtocolError.tellsError_document (error : ProtocolError) :
    error.document.TellsError error.status :=
  ⟨error.code, error.description?, error.code_mem_wireCodes, error.document_eq⟩

/-! ## Proper responses -/

namespace Http.Response

/-- Whether a header field is there exactly once, with this value. -/
def HasOnce (response : Response) (name value : String) : Prop :=
  response.headers.filter (fun field => field.1 == name) = [(name, value)]

theorem HasOnce.setHeader {response : Response} {name value other : String}
    (h : response.HasOnce name value) (text : String) (hne : name ≠ other) :
    (response.setHeader other text).HasOnce name value :=
  (filter_setHeader_of_ne response text hne).trans h

theorem hasOnce_setHeader (response : Response) (name value : String) :
    (response.setHeader name value).HasOnce name value :=
  filter_setHeader_self response name value

/-- Whether the body says a document and is said to do so, and an error tells which it is. -/
structure HasDocument (response : Response) : Prop where
  contentType : response.HasOnce "content-type" "application/json"
  body : ∃ document : Json, document.SaidBy response.body ∧
    (400 ≤ response.status → document.TellsError response.status)

/-- Whether the response says nothing, sends the browser on, or has a document. -/
def IsProper (response : Response) : Prop :=
  response.status = 204 ∨ response.status = 302 ∨ response.HasDocument

theorem IsProper.setHeader {response : Response} {name : String} (h : response.IsProper)
    (value : String) (hne : "content-type" ≠ name) : (response.setHeader name value).IsProper := by
  rcases h with h | h | h
  · exact .inl h
  · exact .inr (.inl h)
  · exact .inr (.inr ⟨h.contentType.setHeader value hne, h.body⟩)

theorem isProper_json {status : Nat} (h : status < 400) (document : Json) :
    (json status document).IsProper :=
  .inr (.inr ⟨rfl, document, document.saidBy_render, fun h400 => absurd h (Nat.not_lt.mpr h400)⟩)

theorem isProper_ofError (error : ProtocolError) : (ofError error).IsProper :=
  .inr (.inr ⟨rfl, error.document, error.document.saidBy_render, fun _ => error.tellsError_document⟩)

/-- The header fields that let pages from anywhere read a response. -/
def corsFields : List (String × String) :=
  [("access-control-allow-origin", "*"), ("access-control-allow-methods", "GET, POST, OPTIONS"),
    ("access-control-allow-headers", "Authorization, Content-Type"),
    ("access-control-max-age", "600")]

theorem hasOnce_withCors (response : Response) {field : String × String} (h : field ∈ corsFields) :
    response.withCors.HasOnce field.1 field.2 := by
  simp only [corsFields, List.mem_cons, List.not_mem_nil, or_false] at h
  rcases h with rfl | rfl | rfl | rfl
  · exact (((hasOnce_setHeader _ _ _).setHeader _ (by decide)).setHeader _
      (by decide)).setHeader _ (by decide)
  · exact ((hasOnce_setHeader _ _ _).setHeader _ (by decide)).setHeader _ (by decide)
  · exact (hasOnce_setHeader _ _ _).setHeader _ (by decide)
  · exact hasOnce_setHeader _ _ _

theorem IsProper.withCors {response : Response} (h : response.IsProper) :
    response.withCors.IsProper :=
  (((h.setHeader _ (by decide)).setHeader _ (by decide)).setHeader _ (by decide)).setHeader _
    (by decide)

end Http.Response

/-! ## What the endpoints hand on -/

namespace Server

variable (server : Server) (conditions : Conditions) (store : Store) (request : Request)

theorem isProper_ofResult_registration :
    (Response.ofResult (server.answer conditions store request .registration).1).IsProper := by
  rcases answerRegistration_cases server.config conditions request.readBody with
    ⟨error, -, hanswer⟩ | ⟨uris, method, -, -, hanswer⟩
  · rw [answer, hanswer store]
    exact Response.isProper_ofError error
  · rw [answer, hanswer store]
    split
    · exact (Response.isProper_json (by decide) _).setHeader _ (by decide)
    · exact Response.isProper_ofError _

theorem isProper_ofResult_authorization :
    (Response.ofResult (server.answer conditions store request .authorization).1).IsProper := by
  rw [server.answer_authorization store ⟨conditions, request⟩]
  split
  · exact Response.isProper_ofError _
  · split
    · exact .inr (.inl rfl)
    · exact Response.isProper_ofError _

theorem isProper_ofResult_token :
    (Response.ofResult (server.answer conditions store request .token).1).IsProper := by
  rw [answer, answerRedemption]
  split
  · exact Response.isProper_ofError _
  · dsimp only
    split
    · exact Response.isProper_ofError _
    · split
      · exact Response.isProper_ofError _
      · split
        · exact Response.isProper_ofError _
        · exact ((Response.isProper_json (by decide) _).setHeader _ (by decide)).setHeader _
            (by decide)

/-- **Every endpoint hands on a proper response.** -/
theorem isProper_ofResult_answer (e : Endpoint) :
    (Response.ofResult (server.answer conditions store request e).1).IsProper := by
  cases e with
  | health => exact Response.isProper_json (by decide) _
  | metadata => exact Response.isProper_json (by decide) _
  | keys => exact Response.isProper_json (by decide) _
  | registration => exact server.isProper_ofResult_registration conditions store request
  | authorization => exact server.isProper_ofResult_authorization conditions store request
  | token => exact server.isProper_ofResult_token conditions store request

/-- **Every response is a proper one with the last touches.** -/
theorem exists_isProper_handle : ∃ response : Response, response.IsProper ∧
    (server.handle conditions store request).1 = finish request response := by
  rw [handle]
  split
  · refine ⟨_, ?_, rfl⟩
    rw [respondElsewhere]
    split
    · exact .inl rfl
    · exact Response.isProper_ofError _
  · rename_i e _
    refine ⟨_, ?_, rfl⟩
    rw [respond]
    split
    · exact .inl rfl
    · split
      · exact server.isProper_ofResult_answer conditions store request e
      · exact (Response.isProper_ofError _).setHeader _ (by decide)

end Server

/-! ## Paths -/

namespace Endpoint

/-- The paths that are only looked at. -/
def viewedPaths : List String :=
  ["/health", "/.well-known/oauth-authorization-server", "/.well-known/jwks.json",
    "/oauth/authorize"]

/-- The paths that take what is posted to them. -/
def postedPaths : List String := ["/register", "/oauth/token"]

theorem mem_viewedPaths_iff {path : String} :
    path ∈ viewedPaths ↔ ∃ e : Endpoint, e.isPosted = false ∧ path = e.path := by
  constructor
  · intro h
    simp only [viewedPaths, List.mem_cons, List.not_mem_nil, or_false] at h
    rcases h with h | h | h | h
    · exact ⟨.health, rfl, h⟩
    · exact ⟨.metadata, rfl, h⟩
    · exact ⟨.keys, rfl, h⟩
    · exact ⟨.authorization, rfl, h⟩
  · rintro ⟨e, he, rfl⟩
    cases e with
    | health | metadata | keys | authorization => simp [viewedPaths, Endpoint.path]
    | registration | token => cases he

theorem mem_postedPaths_iff {path : String} :
    path ∈ postedPaths ↔ ∃ e : Endpoint, e.isPosted = true ∧ path = e.path := by
  constructor
  · intro h
    rcases List.mem_pair.mp h with h | h
    · exact ⟨.registration, rfl, h⟩
    · exact ⟨.token, rfl, h⟩
  · rintro ⟨e, he, rfl⟩
    cases e with
    | health | metadata | keys | authorization => cases he
    | registration | token => simp [postedPaths, Endpoint.path]

end Endpoint

/-! ## The front door -/

/-- The same request, made with `GET`. -/
def Arrival.asGet (a : Arrival) : Arrival :=
  { a with request := { a.request with method := "GET" } }

namespace Exchange

/-- An error is told by a status and a code, unless the body is left out, and the store stays as it
is. -/
structure Refuses (x : Exchange) (status : Nat) (code : String) : Prop where
  goesBy : x.response.status = status
  body : x.request.method ≠ "HEAD" → (Json.ofError code none).SaidBy x.response.body
  after : x.after = x.before

/-- What any exchange looks like from outside. -/
structure FrontDoor (server : Server) (x : Exchange) : Prop where
  preflight : x.request.method = "OPTIONS" →
    x.response.status = 204 ∧ x.response.body = "" ∧ x.after = x.before
  elsewhere : x.request.method ≠ "OPTIONS" →
    x.request.target.path ∉ Endpoint.viewedPaths ++ Endpoint.postedPaths → x.Refuses 404 "not_found"
  unserved : x.request.method ≠ "OPTIONS" →
    x.request.target.path ∈ Endpoint.viewedPaths ∧ x.request.method ∉ ["GET", "HEAD"] ∨
      x.request.target.path ∈ Endpoint.postedPaths ∧ x.request.method ≠ "POST" →
    x.Refuses 405 "method_not_allowed"
  cors : ∀ field ∈ Response.corsFields, x.response.HasOnce field.1 field.2
  contentType : x.response.status ≠ 204 → x.response.status ≠ 302 →
    x.response.HasOnce "content-type" "application/json"
  body : x.response.status ≠ 204 → x.response.status ≠ 302 → x.request.method ≠ "HEAD" →
    ∃ document : Json, document.SaidBy x.response.body ∧ Json.IsDocument x.response.body ∧
      (400 ≤ x.response.status → document.TellsError x.response.status)
  head : x.request.method = "HEAD" → x.request.target.path ∈ Endpoint.viewedPaths →
    x.response = (server.exchange x.before x.asGet).response.withoutBody ∧
      x.after = (server.exchange x.before x.asGet).after

end Exchange

namespace Server

variable (server : Server) (store : Store) {a : Arrival}

theorem headers_finish (request : Request) (response : Response) :
    (finish request response).headers = response.withLength.withCors.headers := by
  unfold finish
  split <;> rfl

/-- A preflight is answered whatever its path. -/
theorem exists_handle_options (h : a.request.method = "OPTIONS") :
    ∃ response : Response, response.status = 204 ∧ response.body = "" ∧
      server.handle a.conditions store a.request = (finish a.request response, store) := by
  cases hpath : Endpoint.ofPath? a.request.target.path with
  | none =>
    refine ⟨.empty 204, rfl, rfl, ?_⟩
    rw [server.handle_elsewhere a.conditions store hpath, respondElsewhere, if_pos h]
  | some e =>
    have hpath := (Endpoint.ofPath?_eq_some_iff _ _).mp hpath
    exact ⟨_, rfl, rfl, server.handle_preflight a.conditions store hpath h⟩

/-- What hands on the document of an error refuses. -/
theorem refuses_of_handle {server : Server} {response : Response} {error : ProtocolError}
    (h : server.handle a.conditions store a.request = (finish a.request response, store))
    (hstatus : response.status = error.status) (hbody : response.body = error.document.render)
    (hdescription : error.description? = none) :
    (server.exchange store a).Refuses error.status error.code := by
  rw [exchange_of_handle h]
  refine ⟨(status_finish _ _).trans hstatus, fun hmethod => saidBy_finish hmethod ?_, rfl⟩
  rw [hbody, error.document_eq, hdescription]

theorem refuses_elsewhere (hmethod : a.request.method ≠ "OPTIONS")
    (hpath : a.request.target.path ∉ Endpoint.viewedPaths ++ Endpoint.postedPaths) :
    (server.exchange store a).Refuses 404 "not_found" := by
  have hnone : Endpoint.ofPath? a.request.target.path = none := by
    cases he : Endpoint.ofPath? a.request.target.path with
    | none => rfl
    | some e =>
      have hfound := (Endpoint.ofPath?_eq_some_iff _ _).mp he
      refine absurd (List.mem_append.mpr ?_) hpath
      cases hposted : e.isPosted with
      | false => exact .inl (Endpoint.mem_viewedPaths_iff.mpr ⟨e, hposted, hfound⟩)
      | true => exact .inr (Endpoint.mem_postedPaths_iff.mpr ⟨e, hposted, hfound⟩)
  have hhandle := server.handle_elsewhere a.conditions store hnone
  rw [respondElsewhere, if_neg hmethod] at hhandle
  exact refuses_of_handle store hhandle rfl rfl rfl

theorem refuses_unserved (hmethod : a.request.method ≠ "OPTIONS")
    (h : a.request.target.path ∈ Endpoint.viewedPaths ∧ a.request.method ∉ ["GET", "HEAD"] ∨
      a.request.target.path ∈ Endpoint.postedPaths ∧ a.request.method ≠ "POST") :
    (server.exchange store a).Refuses 405 "method_not_allowed" := by
  obtain ⟨e, hpath, hserves⟩ : ∃ e : Endpoint, a.request.target.path = e.path ∧
      e.serves a.request.method = false := by
    rcases h with ⟨hpath, hother⟩ | ⟨hpath, hother⟩
    · obtain ⟨e, he, hpath⟩ := Endpoint.mem_viewedPaths_iff.mp hpath
      refine ⟨e, hpath, Bool.eq_false_iff.mpr fun hserves => hother ?_⟩
      exact List.mem_pair.mpr (Request.LooksAt.of_serves hpath hserves he).1
    · obtain ⟨e, he, hpath⟩ := Endpoint.mem_postedPaths_iff.mp hpath
      refine ⟨e, hpath, Bool.eq_false_iff.mpr fun hserves => hother ?_⟩
      exact (Request.Posts.of_serves hpath hserves he).1
  exact refuses_of_handle store (server.handle_unserved a.conditions store hpath hmethod hserves)
    rfl rfl rfl

/-- **What is asked for with `HEAD` is answered as with `GET`, without the body.** -/
theorem handle_head {e : Endpoint} (hmethod : a.request.method = "HEAD")
    (hpath : a.request.target.path = e.path) (he : e.isPosted = false) :
    server.handle a.conditions store a.request =
      ((server.handle a.conditions store a.asGet.request).1.withoutBody,
        (server.handle a.conditions store a.asGet.request).2) := by
  have hhead : a.request.LooksAt e := ⟨.inr hmethod, hpath⟩
  have hget : a.asGet.request.LooksAt e := ⟨.inl rfl, hpath⟩
  -- What is only looked at does not depend on the method.
  have hanswer : server.answer a.conditions store a.asGet.request e
      = server.answer a.conditions store a.request e := by
    cases e with
    | health | metadata | keys | authorization => rfl
    | registration | token => cases he
  have hfinish : ∀ response, finish a.request response
      = (finish a.asGet.request response).withoutBody := by
    intro response
    have hne : a.asGet.request.method ≠ "HEAD" := by
      rw [show a.asGet.request.method = "GET" from rfl]
      decide
    rw [finish, if_pos hmethod, finish, if_neg hne]
  rw [server.handle_served a.conditions store hget.2 (hget.serves he), hanswer,
    server.handle_served a.conditions store hpath (hhead.serves he), hfinish]

/-- The last touches leave a document a document. -/
theorem exists_hasDocument_exchange (a : Arrival)
    (h204 : (server.exchange store a).response.status ≠ 204)
    (h302 : (server.exchange store a).response.status ≠ 302) :
    ∃ response : Response, response.HasDocument ∧
      (server.exchange store a).response.status = response.status ∧
      (server.exchange store a).response.headers = response.headers ∧
      (a.request.method ≠ "HEAD" → (server.exchange store a).response.body = response.body) := by
  obtain ⟨response, hproper, hresponse⟩ :=
    server.exists_isProper_handle a.conditions store a.request
  have hx : (server.exchange store a).response = finish a.request response := hresponse
  have hstatus := status_finish a.request response
  rw [hx, hstatus] at h204 h302
  have htouched : response.withLength.withCors.IsProper :=
    (hproper.setHeader _ (by decide)).withCors
  refine ⟨response.withLength.withCors, ?_, ?_, ?_, fun hmethod => ?_⟩
  · rcases htouched with h | h | h
    · exact absurd h h204
    · exact absurd h h302
    · exact h
  · rw [hx, hstatus]
    rfl
  · rw [hx, headers_finish]
  · rw [hx, body_finish, if_neg hmethod]
    rfl

/-- **Whatever comes in, something proper goes out.** -/
theorem frontDoor_exchange (a : Arrival) : (server.exchange store a).FrontDoor server where
  preflight hmethod := by
    obtain ⟨response, hstatus, hbody, hhandle⟩ := server.exists_handle_options (a := a) store hmethod
    rw [exchange_of_handle hhandle]
    refine ⟨(status_finish _ _).trans hstatus, ?_, rfl⟩
    rw [body_finish, hbody, ite_self]
  elsewhere hmethod hpath := server.refuses_elsewhere store hmethod hpath
  unserved hmethod h := server.refuses_unserved store hmethod h
  cors field hfield := by
    obtain ⟨response, -, hresponse⟩ := server.exists_isProper_handle a.conditions store a.request
    have hx : (server.exchange store a).response = finish a.request response := hresponse
    rw [hx, Response.HasOnce, headers_finish]
    exact Response.hasOnce_withCors _ hfield
  contentType h204 h302 := by
    obtain ⟨response, hdocument, -, hheaders, -⟩ :=
      server.exists_hasDocument_exchange store a h204 h302
    rw [Response.HasOnce, hheaders]
    exact hdocument.contentType
  body h204 h302 hmethod := by
    obtain ⟨response, hdocument, hstatus, -, hbody⟩ :=
      server.exists_hasDocument_exchange store a h204 h302
    obtain ⟨document, hsaid, htells⟩ := hdocument.body
    rw [hbody hmethod, hstatus]
    refine ⟨document, hsaid, ?_, htells⟩
    rw [hsaid.written]
    exact document.isDocument_render
  head hmethod hpath := by
    obtain ⟨e, he, hpath⟩ := Endpoint.mem_viewedPaths_iff.mp hpath
    have hhandle := server.handle_head (a := a) store hmethod hpath he
    rw [exchange_of_handle hhandle]
    exact ⟨rfl, rfl⟩

end Server

end CodeGrant
