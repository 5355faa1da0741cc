import CodeGrant.Authorization
import CodeGrant.Proofs.Form.RoundTrip
import CodeGrant.Redemption

/-! # The first value counts

Of a name that occurs more than once the first value counts, and this is so for every run of
bytes, since what stands before an ampersand is read on its own.  Reading bytes with more bytes
appended behind an ampersand therefore finds a name among the former if it occurs there, even
without a value, and looks among the latter only if it does not (`Form.get_append`).

So nobody changes a parameter by appending others, however their names are written
(`Form.first_value_counts`).  It makes no difference whether the pairs are searched or entered one
after another into a map that keeps what it has (`Form.getElem?_kept`). -/

namespace CodeGrant

namespace Form

/-- The names that occur, in order. -/
def names (params : Params) : List String := params.map Prod.fst

@[simp] theorem names_nil : names [] = [] := rfl

@[simp] theorem names_cons (pair : String × String) (params : Params) :
    names (pair :: params) = pair.1 :: names params := rfl

variable {front back : Params} {name : String}

/-- A name that does not occur has the empty value. -/
theorem get_of_notMem_names {params : Params} (h : name ∉ names params) : get params name = "" := by
  induction params with
  | nil => rfl
  | cons pair params ih =>
    rw [names_cons, List.mem_cons, not_or] at h
    obtain ⟨hpair, hparams⟩ := h
    rw [get_cons, if_neg hpair, ih hparams]

/-- A name that occurs is not looked for any further. -/
theorem get_append_of_mem_names (h : name ∈ names front) (back : Params) :
    get (front ++ back) name = get front name := by
  induction front with
  | nil => cases h
  | cons pair front ih =>
    rw [List.cons_append, get_cons, get_cons]
    by_cases hpair : name = pair.1
    · rw [if_pos hpair, if_pos hpair]
    · rw [if_neg hpair, if_neg hpair, ih ((List.mem_cons.mp h).resolve_left hpair)]

theorem get_append_of_notMem_names (h : name ∉ names front) (back : Params) :
    get (front ++ back) name = get back name := by
  induction front with
  | nil => rfl
  | cons pair front ih =>
    rw [names_cons, List.mem_cons, not_or] at h
    obtain ⟨hpair, hfront⟩ := h
    rw [List.cons_append, get_cons, if_neg hpair, ih hfront]

/-- **A name is looked for from front to back.** -/
theorem get_append (front back : Params) (name : String) :
    get (front ++ back) name = if name ∈ names front then get front name else get back name := by
  by_cases h : name ∈ names front
  · rw [if_pos h, get_append_of_mem_names h]
  · rw [if_neg h, get_append_of_notMem_names h]

/-- The first pair of a name decides. -/
theorem get_append_cons (h : name ∉ names front) (value : String) (back : Params) :
    get (front ++ (name, value) :: back) name = value := by
  rw [get_append_of_notMem_names h, get_cons, if_pos rfl]

/-! ## Pairs in a map -/

/-- The pairs entered one after another into a map that keeps what it has. -/
def kept (params : Params) : Std.ExtTreeMap String String :=
  params.foldl (fun table pair => table.insertIfNew pair.1 pair.2) ∅

/-- What the map has already goes before the pairs that are entered. -/
theorem getElem?_foldl_insertIfNew (params : Params) (table : Std.ExtTreeMap String String)
    (name : String) : (params.foldl (fun table pair => table.insertIfNew pair.1 pair.2) table)[name]?
      = table[name]?.or (params.lookup name) := by
  induction params generalizing table with
  | nil => simp
  | cons pair params ih =>
    obtain ⟨key, value⟩ := pair
    rw [List.foldl_cons, ih, Std.ExtTreeMap.getElem?_insertIfNew, List.lookup_cons]
    by_cases hkey : name = key
    · subst hkey
      cases htable : table[name]? with
      | none => simp [Std.ExtTreeMap.mem_iff_isSome_getElem?, htable]
      | some found => simp [Std.ExtTreeMap.mem_iff_isSome_getElem?, htable]
    · have hne : compare key name ≠ .eq := fun h => hkey (Std.LawfulEqOrd.eq_of_compare h).symm
      simp [hne, beq_false_of_ne hkey]

/-- **The map keeps for each name its first value.** -/
theorem getElem?_kept (params : Params) (name : String) :
    (kept params)[name]? = params.lookup name := by
  rw [kept, getElem?_foldl_insertIfNew, Std.ExtTreeMap.getElem?_empty, Option.none_or]

theorem get_eq_kept (params : Params) (name : String) :
    get params name = (kept params)[name]?.getD "" := by
  rw [getElem?_kept, get]

/-! ## Bytes that are appended -/

/-- What is appended behind an ampersand is looked at only for names that do not occur before. -/
theorem get_decode_append (front back : Bytes) (name : String) :
    get (decode (front ++ 0x26 :: back)) name =
      if name ∈ names (decode front) then get (decode front) name
      else if name ∈ names (decode back) then get (decode back) name else "" := by
  rw [decode_append, get_append]
  by_cases hfront : name ∈ names (decode front)
  · rw [if_pos hfront, if_pos hfront]
  · rw [if_neg hfront, if_neg hfront]
    by_cases hback : name ∈ names (decode back)
    · rw [if_pos hback]
    · rw [if_neg hback, get_of_notMem_names hback]

theorem get_decode_append_of_mem {front : Bytes} (h : name ∈ names (decode front)) (back : Bytes) :
    get (decode (front ++ 0x26 :: back)) name = get (decode front) name := by
  rw [get_decode_append, if_pos h]

end Form

/-! ## Parameters of requests -/

namespace AuthorizationRequest

/-- The parameters of a request for a code, each with what the request takes from it. -/
def parameters : List (String × (AuthorizationRequest → String)) :=
  [("client_id", clientId), ("redirect_uri", redirectUri), ("response_type", responseType),
    ("code_challenge", challenge), ("code_challenge_method", challengeMethod),
    ("resource", resource), ("state", state), ("scope", scope)]

/-- What a request takes from a parameter is its value. -/
theorem eq_get_of_mem_parameters {name : String} {field : AuthorizationRequest → String}
    (h : (name, field) ∈ parameters) (params : Form.Params) :
    field (ofParams params) = Form.get params name := by
  simp only [parameters, List.mem_cons, Prod.mk.injEq, List.not_mem_nil, or_false] at h
  rcases h with h | h | h | h | h | h | h | h <;> (obtain ⟨rfl, rfl⟩ := h; rfl)

/-- **What is appended to a query changes no parameter that the query has.** -/
theorem ofQuery_append {name : String} {field : AuthorizationRequest → String}
    (hfield : (name, field) ∈ parameters) {query : String}
    (h : name ∈ Form.names (Form.decode (Utf8.encode query))) (extra : String) :
    field (ofQuery (some (query ++ "&" ++ extra))) = field (ofQuery (some query)) := by
  rw [ofQuery, ofQuery, eq_get_of_mem_parameters hfield, eq_get_of_mem_parameters hfield,
    Option.getD_some, Option.getD_some, Form.encode_append_amp, Form.get_decode_append_of_mem h]

end AuthorizationRequest

namespace TokenRequest

/-- The parameters of a request for a token, each with what the request takes from it. -/
def parameters : List (String × (TokenRequest → String)) :=
  [("grant_type", grantType), ("code", code), ("client_id", clientId), ("code_verifier", verifier),
    ("resource", resource), ("redirect_uri", redirectUri)]

theorem eq_get_of_mem_parameters {name : String} {field : TokenRequest → String}
    (h : (name, field) ∈ parameters) (params : Form.Params) :
    field (ofParams params) = Form.get params name := by
  simp only [parameters, List.mem_cons, Prod.mk.injEq, List.not_mem_nil, or_false] at h
  rcases h with h | h | h | h | h | h <;> (obtain ⟨rfl, rfl⟩ := h; rfl)

/-- **What is appended to a body changes no parameter that the body has.** -/
theorem ofBody_append {name : String} {field : TokenRequest → String}
    (hfield : (name, field) ∈ parameters) {body : Bytes}
    (h : name ∈ Form.names (Form.decode body)) (request : Http.Request) (extra : Bytes) :
    field (ofBody request (body ++ 0x26 :: extra)) = field (ofBody request body) := by
  rw [ofBody, ofBody, eq_get_of_mem_parameters hfield, eq_get_of_mem_parameters hfield]
  split
  · exact Form.get_decode_append_of_mem h extra
  · rfl

end TokenRequest

namespace Form

/-- **The first value counts, for every run of bytes.**  A name is looked for before the ampersand
and only then behind it; it makes no difference whether the pairs are entered into a map that keeps
what it has; of pairs that were written as a form the first one of a name decides; and what is
appended to the query of a request for a code, or to the body of a request for a token, changes no
parameter that is there already. -/
theorem first_value_counts (front back : Bytes) (name : String) :
    get (decode (front ++ 0x26 :: back)) name =
        (if name ∈ names (decode front) then get (decode front) name
          else if name ∈ names (decode back) then get (decode back) name else "") ∧
      get (decode front) name = (kept (decode front))[name]?.getD "" ∧
      (∀ earlier value later, name ∉ names earlier →
        get (decode (Utf8.encode (encode (earlier ++ (name, value) :: later)))) name = value) ∧
      (∀ params, name ∉ names params → get (decode (Utf8.encode (encode params))) name = "") ∧
      (∀ field query extra, (name, field) ∈ AuthorizationRequest.parameters →
        name ∈ names (decode (Utf8.encode query)) →
        field (.ofQuery (some (query ++ "&" ++ extra))) = field (.ofQuery (some query))) ∧
      (∀ field request, (name, field) ∈ TokenRequest.parameters → name ∈ names (decode front) →
        field (.ofBody request (front ++ 0x26 :: back)) = field (.ofBody request front)) := by
  refine ⟨get_decode_append front back name, get_eq_kept _ name, ?_, ?_, ?_, ?_⟩
  · intro earlier value later hearlier
    rw [decode_encode, get_append_cons hearlier]
  · intro params hparams
    rw [decode_encode, get_of_notMem_names hparams]
  · intro field query extra hfield hquery
    exact AuthorizationRequest.ofQuery_append hfield hquery extra
  · intro field request hfield hfront
    exact TokenRequest.ofBody_append hfield hfront request back

/-- A code that is shown once more under an escaped name does not replace the first, though it would
count on its own. -/
theorem first_value_counts_of_escaped :
    get (decode (Utf8.encode "%63ode=b")) "code" = "b" ∧
      get (decode (Utf8.encode "code=a&%63ode=b")) "code" = "a" := by
  obtain ⟨hfirst, -⟩ :=
    first_value_counts (Utf8.encode "code=a") (Utf8.encode "%63ode=b") "code"
  have hjoin : Utf8.encode "code=a&%63ode=b"
      = Utf8.encode "code=a" ++ 0x26 :: Utf8.encode "%63ode=b" := by decide
  have hnames : "code" ∈ names (decode (Utf8.encode "code=a")) := by decide
  refine ⟨by decide, ?_⟩
  rw [hjoin, hfirst, if_pos hnames]
  decide

end Form

end CodeGrant
