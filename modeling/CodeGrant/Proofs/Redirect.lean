import CodeGrant.Http.Target
import CodeGrant.Proofs.Authorization
import Mathlib.Data.List.TakeWhile

/-! # Where the browser is sent

A redirect carries the code in the query of its location, behind the parameters that the
redirect URI has already.  What is appended is a form (`redirectLocation_eq`), so a client
that reads on from the first `?` finds its own parameters, the code, and its state
character for character (`redirect_round_trip`).  This holds also of a redirect URI whose
query is empty or ends in the middle of a parameter, since an ampersand comes between.

The query of a URI is what stands after its first `?` and before its first `#`
(`queryOf?`).  If the redirect URI has no `#`, what is appended to it ends up in the
query (`decode_query_redirectLocation`).  Wherever the query begins, the scheme, the host and
the path stay those of the redirect URI (`destination_redirectLocation`). -/

namespace CodeGrant

namespace Http.Target

variable {c : Char} {chars front : List Char}

theorem bne_of_mem (h : c ∉ chars) : ∀ d ∈ chars, (d != c) = true := by
  intro d hd
  rw [bne_iff_ne]
  rintro rfl
  exact h hd

theorem cutAt_of_notMem (h : c ∉ chars) : cutAt c chars = (chars, none) := by
  have hne := bne_of_mem h
  rw [cutAt, List.dropWhile_eq_nil_iff.mpr hne, List.takeWhile_eq_self_iff.mpr hne]

/-- The cut is made at the first occurrence. -/
theorem cutAt_append (h : c ∉ front) (rest : List Char) :
    cutAt c (front ++ c :: rest) = (front, some rest) := by
  have hne := bne_of_mem h
  simp [cutAt, List.takeWhile_append_of_pos hne, List.dropWhile_append_of_pos hne]

end Http.Target

open Http (Target)

/-- The query of a URI, if it has one. -/
def queryOf? (uri : String) : Option String :=
  (Target.cutAt '?' (Target.cutAt '#' uri.toList).1).2.map String.ofList

example : queryOf? "http://a?b=c?d#e?f" = some "b=c?d" ∧ queryOf? "http://a#b?c" = none := by
  decide +kernel

/-- Without a `#` the query is all that follows the first `?`. -/
theorem queryOf?_append {front rest : String} (hmark : '?' ∉ front.toList)
    (hhash : '#' ∉ (front ++ "?" ++ rest).toList) :
    queryOf? (front ++ "?" ++ rest) = some rest := by
  have htext : (front ++ "?" ++ rest).toList = front.toList ++ '?' :: rest.toList := by simp
  rw [queryOf?, Target.cutAt_of_notMem hhash, htext, Target.cutAt_append hmark]
  exact congrArg some (String.ofList_toList)

/-- A text in which a `?` occurs is cut at the first one. -/
theorem exists_eq_append_of_mem {uri : String} (h : '?' ∈ uri.toList) :
    ∃ front rest : String, uri = front ++ "?" ++ rest ∧ '?' ∉ front.toList := by
  obtain ⟨front, rest, hsplit, hfront⟩ := List.eq_append_cons_of_mem h
  refine ⟨String.ofList front, String.ofList rest, ?_, ?_⟩
  · rw [← String.toList_inj, hsplit]
    simp
  · rwa [String.toList_ofList]

/-! ## What is appended -/

/-- The parameters that a redirect appends. -/
def redirectParams (code state : String) : Form.Params :=
  ("code", code) :: if state = "" then [] else [("state", state)]

namespace Form

/-- A text is written as it is if each of its characters stands for itself. -/
theorem encodeText_of_forall {text : String}
    (h : ∀ c ∈ text.toList, (String.utf8EncodeChar c).flatMap encodeByte = [c]) :
    encodeText text = text := by
  have hchars : ∀ chars : List Char,
      (∀ c ∈ chars, (String.utf8EncodeChar c).flatMap encodeByte = [c]) →
        chars.flatMap (fun c => (String.utf8EncodeChar c).flatMap encodeByte) = chars := by
    intro chars hplain
    induction chars with
    | nil => rfl
    | cons c chars ih =>
      obtain ⟨hc, hplain⟩ := List.forall_mem_cons.mp hplain
      rw [List.flatMap_cons, hc, ih hplain, List.singleton_append]
  rw [encodeText, Utf8.encode, List.flatMap_assoc, hchars _ h, String.ofList_toList]

/-- Hexadecimal digits stand for themselves, in small letters and in capitals. -/
theorem encodeText_of_hexDigits {text : String}
    (h : ∀ c ∈ text.toList, c ∈ Hex.allDigits) : encodeText text = text := by
  have hall : (Hex.allDigits.all fun c =>
      (String.utf8EncodeChar c).flatMap encodeByte == [c]) = true := by decide
  exact encodeText_of_forall fun c hc => beq_iff_eq.mp (List.all_eq_true.mp hall c (h c hc))

theorem encodeText_of_isDigits {count : Nat} {text : String} (h : Hex.IsDigits count text) :
    encodeText text = text := by
  have hsmall : ∀ c ∈ Hex.smallDigits, c ∈ Hex.allDigits :=
    List.forall_iff_forall_mem.mp (by decide)
  exact encodeText_of_hexDigits fun c hc => hsmall c (h.digits c hc)

/-- No character that is written for a text ends a query. -/
theorem hash_notMem_encodeText (text : String) : '#' ∉ (encodeText text).toList :=
  fun h => absurd (mem_writtenChars_of_mem_encodeText h) (by decide)

theorem hash_notMem_encodePair (pair : String × String) : '#' ∉ (encodePair pair).toList := by
  simp [encodePair, hash_notMem_encodeText]

end Form

/-- **A redirect appends the code and the state as a form.** -/
theorem redirectLocation_eq {code : String} (hcode : Form.encodeText code = code)
    (redirectUri state : String) :
    redirectLocation redirectUri code state = redirectUri
      ++ (if redirectUri.toList.contains '?' then "&" else "?")
      ++ Form.encode (redirectParams code state) := by
  have hname : Form.encodeText "code" ++ "=" = "code=" := by decide
  have hstate : "&" ++ (Form.encodeText "state" ++ "=") = "&state=" := by decide
  rw [redirectLocation, redirectParams, Form.encode]
  by_cases hempty : state = ""
  · rw [if_pos hempty, if_pos hempty, List.map_singleton, String.intercalate_singleton,
      Form.encodePair, hname, hcode]
    simp only [String.append_assoc, String.append_empty]
  · rw [if_neg hempty, if_neg hempty, List.map_cons, List.map_singleton,
      String.intercalate_cons_cons, String.intercalate_singleton, Form.encodePair, hname, hcode,
      Form.encodePair, ← hstate]
    simp only [String.append_assoc]

theorem hash_notMem_encode_redirectParams (code state : String) :
    '#' ∉ (Form.encode (redirectParams code state)).toList := by
  rw [redirectParams, Form.encode]
  split <;> simp [Form.hash_notMem_encodePair, String.intercalate_cons_cons]

/-- No fragment is appended. -/
theorem hash_notMem_redirectLocation {redirectUri code : String}
    (hcode : Form.encodeText code = code) (huri : '#' ∉ redirectUri.toList) (state : String) :
    '#' ∉ (redirectLocation redirectUri code state).toList := by
  have hmark : '#' ∉ (if redirectUri.toList.contains '?' then "&" else "?").toList := by
    split <;> decide
  rw [redirectLocation_eq hcode, String.toList_append, String.toList_append, List.mem_append,
    List.mem_append, not_or, not_or]
  exact ⟨⟨huri, hmark⟩, hash_notMem_encode_redirectParams code state⟩

/-! ## What is read behind the first question mark -/

/-- What stands before the first `?` of a location. -/
def beforeQuery (location : String) : String :=
  String.ofList (Target.cutAt '?' location.toList).1

/-- The parameters that are read behind the first `?` of a location. -/
def receivedParams (location : String) : Form.Params :=
  Form.decode (Utf8.encode (String.ofList ((Target.cutAt '?' location.toList).2.getD [])))

theorem cutAt_toList_append {front rest : String} (h : '?' ∉ front.toList) :
    Target.cutAt '?' (front ++ "?" ++ rest).toList = (front.toList, some rest.toList) := by
  have htext : (front ++ "?" ++ rest).toList = front.toList ++ '?' :: rest.toList := by simp
  rw [htext, Target.cutAt_append h]

theorem receivedParams_append {front rest : String} (h : '?' ∉ front.toList) :
    receivedParams (front ++ "?" ++ rest) = Form.decode (Utf8.encode rest) := by
  rw [receivedParams, cutAt_toList_append h, Option.getD_some, String.ofList_toList]

theorem beforeQuery_append {front rest : String} (h : '?' ∉ front.toList) :
    beforeQuery (front ++ "?" ++ rest) = front := by
  rw [beforeQuery, cutAt_toList_append h, String.ofList_toList]

/-- Without a `?` there is nothing to read. -/
theorem receivedParams_of_notMem {uri : String} (h : '?' ∉ uri.toList) : receivedParams uri = [] := by
  rw [receivedParams, Target.cutAt_of_notMem h]
  rfl

theorem beforeQuery_of_notMem {uri : String} (h : '?' ∉ uri.toList) : beforeQuery uri = uri := by
  rw [beforeQuery, Target.cutAt_of_notMem h, String.ofList_toList]

/-- Parameters that follow a query are read behind those of the query. -/
theorem decode_encode_append_amp (query : String) (params : Form.Params) :
    Form.decode (Utf8.encode (query ++ "&" ++ Form.encode params))
      = Form.decode (Utf8.encode query) ++ params := by
  rw [Form.encode_append_amp, Form.decode_append, Form.decode_encode]

/-- **A location has one query, behind what stood before the query of the redirect URI.** -/
theorem exists_redirectLocation_eq {code : String} (hcode : Form.encodeText code = code)
    (redirectUri state : String) : ∃ query,
      redirectLocation redirectUri code state = beforeQuery redirectUri ++ "?" ++ query ∧
      '?' ∉ (beforeQuery redirectUri).toList ∧
      Form.decode (Utf8.encode query) = receivedParams redirectUri ++ redirectParams code state := by
  rw [redirectLocation_eq hcode]
  by_cases hmark : '?' ∈ redirectUri.toList
  · -- The parameters follow those of the URI, behind an ampersand.
    rw [if_pos (List.contains_iff_mem.mpr hmark)]
    obtain ⟨front, rest, rfl, hfront⟩ := exists_eq_append_of_mem hmark
    rw [beforeQuery_append hfront, receivedParams_append hfront]
    refine ⟨rest ++ "&" ++ Form.encode (redirectParams code state), ?_, hfront,
      decode_encode_append_amp _ _⟩
    simp only [String.append_assoc]
  · rw [if_neg fun h => hmark (List.contains_iff_mem.mp h), beforeQuery_of_notMem hmark,
      receivedParams_of_notMem hmark]
    exact ⟨_, rfl, hmark, Form.decode_encode _⟩

/-- **The client reads its own parameters, the code and the state.** -/
theorem receivedParams_redirectLocation {code : String} (hcode : Form.encodeText code = code)
    (redirectUri state : String) : receivedParams (redirectLocation redirectUri code state)
      = receivedParams redirectUri ++ redirectParams code state := by
  obtain ⟨query, hlocation, hfront, hdecode⟩ := exists_redirectLocation_eq hcode redirectUri state
  rw [hlocation, receivedParams_append hfront, hdecode]

/-- What is appended is the same for every state, apart from the state. -/
theorem filter_redirectParams (code state : String) :
    (redirectParams code state).filter (·.1 ≠ "state") = [("code", code)] := by
  rw [redirectParams]
  split <;> rfl

/-- Without a fragment the query is what is read behind the first `?`. -/
theorem decode_queryOf? {uri : String} (h : '#' ∉ uri.toList) :
    Form.decode (Utf8.encode ((queryOf? uri).getD "")) = receivedParams uri := by
  rw [queryOf?, Target.cutAt_of_notMem h, receivedParams]
  cases (Target.cutAt '?' uri.toList).2 <;> rfl

/-- **The query of the location reads as the query of the redirect URI, followed by the code and the
state.** -/
theorem decode_query_redirectLocation {count : Nat} {redirectUri code : String}
    (hcode : Hex.IsDigits count code) (huri : '#' ∉ redirectUri.toList) (state : String) :
    ∃ query, queryOf? (redirectLocation redirectUri code state) = some query ∧
      Form.decode (Utf8.encode query) =
        Form.decode (Utf8.encode ((queryOf? redirectUri).getD "")) ++ redirectParams code state := by
  have hplain := Form.encodeText_of_isDigits hcode
  obtain ⟨query, hlocation, hfront, hdecode⟩ := exists_redirectLocation_eq hplain redirectUri state
  have hhash := hash_notMem_redirectLocation hplain huri state
  rw [hlocation] at hhash ⊢
  refine ⟨query, queryOf?_append hfront hhash, ?_⟩
  rw [hdecode, decode_queryOf? huri]

/-- **The browser takes the code and the state to the client, and nothing else.**  What is read
behind the first `?` of the location are the parameters of the redirect URI, then the code, and then
the state unless it is empty; what stands before is as in the redirect URI.  So the state comes back
character for character, and whatever it is, the other parameters are the same. -/
theorem redirect_round_trip {code : String} (redirectUri state : String)
    (hcode : ∀ c ∈ code.toList, c ∈ Hex.allDigits) :
    receivedParams (redirectLocation redirectUri code state)
        = receivedParams redirectUri ++ ("code", code) ::
          (if state = "" then [] else [("state", state)]) ∧
      beforeQuery (redirectLocation redirectUri code state) = beforeQuery redirectUri ∧
      ∀ other, (receivedParams (redirectLocation redirectUri code state)).filter (·.1 ≠ "state")
        = (receivedParams (redirectLocation redirectUri code other)).filter (·.1 ≠ "state") := by
  have hplain := Form.encodeText_of_hexDigits hcode
  refine ⟨receivedParams_redirectLocation hplain redirectUri state, ?_, fun other => ?_⟩
  · obtain ⟨query, hlocation, hfront, -⟩ := exists_redirectLocation_eq hplain redirectUri state
    rw [hlocation, beforeQuery_append hfront]
  · rw [receivedParams_redirectLocation hplain, receivedParams_redirectLocation hplain,
      List.filter_append, List.filter_append, filter_redirectParams, filter_redirectParams]

/-- A state that looks like a second code comes back as a state, behind a query that ends in the
middle of a parameter. -/
theorem redirect_round_trip_of_hostile :
    receivedParams (redirectLocation "http://a?tenant" "0aF" "&code=b#\r\n é")
      = [("tenant", ""), ("code", "0aF"), ("state", "&code=b#\r\n é")] := by
  have hcode : ∀ c ∈ "0aF".toList, c ∈ Hex.allDigits :=
    List.forall_iff_forall_mem.mp (by decide)
  rw [(redirect_round_trip "http://a?tenant" "&code=b#\r\n é" hcode).1]
  decide +kernel

/-! ## Where a location leads -/

/-- Where a URI leads: its scheme, its host and its path, without its query and its fragment. -/
def destination (uri : String) : String :=
  String.ofList (uri.toList.takeWhile fun c => c != '?' && c != '#')

/-- A query changes nothing about where a URI leads. -/
theorem destination_append (front back : String) :
    destination (front ++ "?" ++ back) = destination front := by
  have htext : (front ++ "?" ++ back).toList = front.toList ++ '?' :: back.toList := by simp
  rw [destination, htext, List.takeWhile_append]
  split
  · next hall =>
    have hfront := (List.takeWhile_sublist _).eq_of_length hall
    rw [destination, hfront]
    simp
  · rfl

theorem destination_beforeQuery (uri : String) : destination (beforeQuery uri) = destination uri := by
  by_cases hmark : '?' ∈ uri.toList
  · obtain ⟨front, rest, rfl, hfront⟩ := exists_eq_append_of_mem hmark
    rw [beforeQuery_append hfront, destination_append]
  · rw [beforeQuery_of_notMem hmark]

/-- **The browser is sent where the redirect URI leads.** -/
theorem destination_redirectLocation {code : String} (hcode : Form.encodeText code = code)
    (redirectUri state : String) :
    destination (redirectLocation redirectUri code state) = destination redirectUri := by
  obtain ⟨query, hlocation, -, -⟩ := exists_redirectLocation_eq hcode redirectUri state
  rw [hlocation, destination_append, destination_beforeQuery]

end CodeGrant
