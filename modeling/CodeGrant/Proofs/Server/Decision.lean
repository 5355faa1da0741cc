import CodeGrant.Proofs.Server.FrontDoor

/-! # Decision tables

What an endpoint refuses is told by a table.  Each rule of the table (`Rule`) says when it applies,
which error is told then, and which store is left behind.  The rules come in an order: an exchange
goes by a table (`Exchange.GoesBy`) if the first rule that applies decides, whatever the later ones
say, and if what is asked for is granted when no rule applies.

A table is gone through from its top, one rule after another (`GoesBy.cons`), and ends in what is
granted (`GoesBy.nil`).  Since some rule is the first that applies whenever any applies, the status
tells whether none did (`GoesBy.status_eq_iff`). -/

namespace CodeGrant

open Http (Request Response)

/-! ## Header fields of what is sent -/

namespace Http.Response

/-- Whether a header field is not there. -/
def Lacks (response : Response) (name : String) : Prop :=
  response.headers.filter (fun field => field.1 == name) = []

theorem mem_filter_headers {response : Response} {name value : String}
    (h : (name, value) ∈ response.headers) :
    (name, value) ∈ response.headers.filter (fun field => field.1 == name) :=
  List.mem_filter.mpr ⟨h, beq_iff_eq.mpr rfl⟩

/-- A field that is there once has one value. -/
theorem HasOnce.eq_of_mem {response : Response} {name value other : String}
    (h : response.HasOnce name value) (hmem : (name, other) ∈ response.headers) : other = value := by
  have hfilter := mem_filter_headers hmem
  rw [h, List.mem_singleton] at hfilter
  exact (Prod.mk.inj hfilter).2

/-- The header fields that the last touches set. -/
def touchedFields : List String := "content-length" :: corsFields.map Prod.fst

end Http.Response

/-- The last touches leave other header fields as they are. -/
theorem Server.filter_headers_finish (request : Request) (response : Response) {name : String}
    (h : name ∉ Response.touchedFields) :
    (finish request response).headers.filter (fun field => field.1 == name)
      = response.headers.filter (fun field => field.1 == name) := by
  simp only [Response.touchedFields, Response.corsFields, List.map_cons, List.map_nil,
    List.mem_cons, List.not_mem_nil, or_false, not_or] at h
  obtain ⟨hlength, horigin, hmethods, hfields, hage⟩ := h
  rw [headers_finish, Response.withCors, Response.filter_setHeader_of_ne _ _ hage,
    Response.filter_setHeader_of_ne _ _ hfields, Response.filter_setHeader_of_ne _ _ hmethods,
    Response.filter_setHeader_of_ne _ _ horigin, Response.withLength,
    Response.filter_setHeader_of_ne _ _ hlength]

namespace Http.Response

theorem HasOnce.finish {response : Response} {name value : String}
    (h : response.HasOnce name value) (request : Request) (hname : name ∉ touchedFields) :
    (Server.finish request response).HasOnce name value :=
  (Server.filter_headers_finish request response hname).trans h

theorem Lacks.finish {response : Response} {name : String} (h : response.Lacks name)
    (request : Request) (hname : name ∉ touchedFields) :
    (Server.finish request response).Lacks name :=
  (Server.filter_headers_finish request response hname).trans h

theorem hasOnce_json (status : Nat) (document : Json) :
    (json status document).HasOnce "content-type" "application/json" := rfl

theorem lacks_location_json (status : Nat) (document : Json) :
    (json status document).Lacks "location" := rfl

end Http.Response

/-! ## Tables -/

/-- A rule of a decision table. -/
structure Rule where
  /-- When the rule applies. -/
  applies : Prop
  /-- The status of the error that is told then. -/
  status : Nat
  /-- Its code. -/
  code : String
  /-- Its description, if it has one. -/
  description? : Option String
  /-- The store that is left behind then. -/
  after : Store

namespace Exchange

/-- An error is told by a status, a code and perhaps a description, and the browser is sent nowhere. -/
structure Tells (x : Exchange) (status : Nat) (code : String) (description? : Option String) : Prop
    where
  known : (code, status) ∈ ProtocolError.wireCodes
  goesBy : x.response.status = status
  contentType : x.response.HasOnce "content-type" "application/json"
  location : x.response.Lacks "location"
  body : x.request.method ≠ "HEAD" → (Json.ofError code description?).SaidBy x.response.body

/-- The error of a rule is told, and its store is left behind. -/
def Follows (x : Exchange) (rule : Rule) : Prop :=
  x.Tells rule.status rule.code rule.description? ∧ x.after = rule.after

/-- The first rule that applies decides, whatever the later ones say; if none applies, what is asked
for is granted. -/
structure GoesBy (x : Exchange) (rules : List Rule) (granted : Prop) : Prop where
  refused : ∀ earlier rule later, rules = earlier ++ rule :: later →
    (∀ r ∈ earlier, ¬ r.applies) → rule.applies → x.Follows rule
  granted : (∀ rule ∈ rules, ¬ rule.applies) → granted

namespace GoesBy

variable {x : Exchange} {rule : Rule} {rules : List Rule} {granted : Prop}

theorem nil (h : granted) : x.GoesBy [] granted where
  refused earlier rule later hrules := by simp at hrules
  granted _ := h

/-- **A table is gone through rule by rule.** -/
theorem cons (happlies : rule.applies → x.Follows rule)
    (hrest : ¬ rule.applies → x.GoesBy rules granted) : x.GoesBy (rule :: rules) granted where
  refused earlier first later hrules hearlier hfirst := by
    cases earlier with
    | nil =>
      obtain ⟨rfl, rfl⟩ := List.cons.inj hrules
      exact happlies hfirst
    | cons r earlier =>
      obtain ⟨hhead, htail⟩ := List.cons.inj hrules
      obtain ⟨hr, hearlier⟩ := List.forall_mem_cons.mp (hhead ▸ hearlier)
      exact (hrest hr).refused earlier first later htail hearlier hfirst
  granted hnone := by
    obtain ⟨hrule, hnone⟩ := List.forall_mem_cons.mp hnone
    exact (hrest hrule).granted hnone

/-- If any rule applies, one of them is the first. -/
theorem exists_first (h : ∃ rule ∈ rules, rule.applies) : ∃ earlier rule later,
    rules = earlier ++ rule :: later ∧ (∀ r ∈ earlier, ¬ r.applies) ∧ rule.applies := by
  induction rules with
  | nil =>
    obtain ⟨rule, hrule, -⟩ := h
    cases hrule
  | cons r rules ih =>
    by_cases hr : r.applies
    · exact ⟨[], r, rules, rfl, nofun, hr⟩
    · obtain ⟨rule, hrule, happlies⟩ := h
      have htail : rule ∈ rules := by
        rcases List.mem_cons.mp hrule with rfl | htail
        · exact absurd happlies hr
        · exact htail
      obtain ⟨earlier, first, later, rfl, hearlier, hfirst⟩ := ih ⟨rule, htail, happlies⟩
      exact ⟨r :: earlier, first, later, rfl, List.forall_mem_cons.mpr ⟨hr, hearlier⟩, hfirst⟩

/-- If one of the first rules applies, one of these is followed. -/
theorem follows_of_take {n : Nat} (h : x.GoesBy rules granted)
    (happlies : ∃ rule ∈ rules.take n, rule.applies) : ∃ rule ∈ rules.take n, x.Follows rule := by
  obtain ⟨earlier, first, later, hrules, hearlier, hfirst⟩ := exists_first happlies
  have hsplit : rules = earlier ++ first :: (later ++ rules.drop n) := by
    rw [← List.cons_append, ← List.append_assoc, ← hrules, List.take_append_drop]
  refine ⟨first, ?_, h.refused earlier first _ hsplit hearlier hfirst⟩
  rw [hrules]
  exact List.mem_append_right _ List.mem_cons_self

/-- **The status tells whether no rule applied.** -/
theorem status_eq_iff {success : Nat} (h : x.GoesBy rules granted) (hsuccess : success < 400)
    (hgranted : granted → x.response.status = success) :
    x.response.status = success ↔ ∀ rule ∈ rules, ¬ rule.applies := by
  refine ⟨fun hstatus rule hrule happlies => ?_, fun hnone => hgranted (h.granted hnone)⟩
  obtain ⟨earlier, first, later, hrules, hearlier, hfirst⟩ := exists_first ⟨rule, hrule, happlies⟩
  obtain ⟨htells, -⟩ := h.refused earlier first later hrules hearlier hfirst
  have herror := ProtocolError.le_of_mem_wireCodes htells.known
  have htold := htells.goesBy
  omega

/-- Who is sent anywhere has been granted what was asked for. -/
theorem granted_of_location (h : x.GoesBy rules granted) {location : String}
    (hlocation : ("location", location) ∈ x.response.headers) : granted := by
  refine h.granted fun rule hrule happlies => ?_
  obtain ⟨earlier, first, later, hrules, hearlier, hfirst⟩ := exists_first ⟨rule, hrule, happlies⟩
  obtain ⟨htells, -⟩ := h.refused earlier first later hrules hearlier hfirst
  have hmem := Response.mem_filter_headers hlocation
  rw [htells.location] at hmem
  cases hmem

end GoesBy

/-- What hands on the document of an error tells the error. -/
theorem tells_of_handle {server : Server} {store after : Store} {a : Arrival}
    {error : ProtocolError} (h : server.handle a.conditions store a.request
      = (Server.finish a.request (.ofResult (.error error)), after)) :
    (server.exchange store a).Tells error.status error.code error.description? ∧
      (server.exchange store a).after = after := by
  rw [Server.exchange_of_handle h]
  refine ⟨⟨error.code_mem_wireCodes, Server.status_finish _ _, ?_, ?_, fun hmethod => ?_⟩, rfl⟩
  · exact (Response.hasOnce_json _ _).finish _ (by decide)
  · exact (Response.lacks_location_json _ _).finish _ (by decide)
  · exact Server.saidBy_finish hmethod (congrArg Json.render error.document_eq)

end Exchange

end CodeGrant
