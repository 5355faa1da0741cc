import CodeGrant.ProtocolError

/-! # Responses

A response is a status, header fields, and a body of text.  A document is sent as
JSON (`Response.json`), an error as its document under its status
(`Response.ofError`). -/

namespace CodeGrant.Http

/-- A response; the names of its header fields are in small letters. -/
structure Response where
  status : Nat
  headers : List (String × String)
  body : String
  deriving DecidableEq, Repr

namespace Response

/-- A response without header fields and without a body. -/
def empty (status : Nat) : Response := ⟨status, [], ""⟩

/-- Sets a header field, in place of any field of the same name. -/
def setHeader (response : Response) (name value : String) : Response :=
  { response with
    headers := response.headers.filter (fun field => field.1 != name) ++ [(name, value)] }

/-- A JSON document. -/
def json (status : Nat) (document : Json) : Response :=
  ⟨status, [("content-type", "application/json")], document.render⟩

/-- The document of an error. -/
def ofError (error : ProtocolError) : Response := json error.status error.document

/-- A response without its body; the header fields still describe the body. -/
def withoutBody (response : Response) : Response := { response with body := "" }

/-- Says how long the body is. -/
def withLength (response : Response) : Response :=
  response.setHeader "content-length" (Nat.repr response.body.utf8ByteSize)

@[simp] theorem status_setHeader (response : Response) (name value : String) :
    (response.setHeader name value).status = response.status := rfl

@[simp] theorem body_setHeader (response : Response) (name value : String) :
    (response.setHeader name value).body = response.body := rfl

/-- **A field that has been set is there exactly once.** -/
theorem filter_setHeader_self (response : Response) (name value : String) :
    (response.setHeader name value).headers.filter (fun field => field.1 == name)
      = [(name, value)] := by
  simp only [setHeader, List.filter_append, List.filter_filter]
  simp

/-- Setting a field leaves the others as they are. -/
theorem filter_setHeader_of_ne (response : Response) {name other : String} (value : String)
    (h : other ≠ name) :
    (response.setHeader name value).headers.filter (fun field => field.1 == other)
      = response.headers.filter (fun field => field.1 == other) := by
  simp only [setHeader, List.filter_append, List.filter_filter]
  have : [(name, value)].filter (fun field => field.1 == other) = [] := by
    simp [Ne.symm h]
  rw [this, List.append_nil]
  congr 1
  funext field
  by_cases hf : field.1 = other
  · simp [hf, h]
  · simp [hf]

/-- The characters that a header value may hold: no control character but the tab. -/
def isHeaderChar (c : Char) : Bool := c == '\t' || (0x20 ≤ c.toNat && c.toNat != 0x7F)

/-- Whether a text can stand in a header field. -/
def isHeaderSafe (text : String) : Bool := text.toList.all isHeaderChar

end Response

end CodeGrant.Http
