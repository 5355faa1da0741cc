import CodeGrant.Bytes
import CodeGrant.Http.Target

/-! # Requests

A request as it reaches the server, with its head taken apart and its body read,
or with a body that could not be read. -/

namespace CodeGrant.Http

/-- A request. -/
structure Request where
  method : String
  target : Target
  /-- The header fields in the order in which they came. -/
  headers : List (String × Bytes)
  /-- The body, unless reading it failed. -/
  body : Option Bytes
  deriving DecidableEq, Repr

namespace Request

/-- The longest body that an endpoint reads, in bytes. -/
def bodyLimit : Nat := 2097152

/-- The body, unless reading it failed or it is too long. -/
def readBody (request : Request) : Option Bytes :=
  request.body.filter fun bytes => bytes.length ≤ bodyLimit

/-- A letter in lower case; other characters stay as they are, beyond ASCII too. -/
def lower (text : String) : String := String.ofList (text.toList.map Char.toLower)

/-- The first value of a header field; names are compared without regard to case. -/
def header? (request : Request) (name : String) : Option Bytes :=
  (request.headers.find? fun field => lower field.1 == lower name).map (·.2)

end Request

end CodeGrant.Http
