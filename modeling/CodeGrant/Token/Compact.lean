import CodeGrant.Base64Url
import CodeGrant.Rsa
import CodeGrant.Text.Utf8

/-! # Tokens in compact form

A signed token is three base64url segments with dots between them: a header, the
claims, and a signature over the first two (RFC 7515, section 3.1). -/

namespace CodeGrant

/-- The three segments of a token. -/
structure CompactToken where
  header : String
  claims : String
  signature : String
  deriving DecidableEq, Repr

namespace CompactToken

/-- What is signed. -/
def signedText (token : CompactToken) : String := token.header ++ "." ++ token.claims

/-- The text of a token. -/
def toText (token : CompactToken) : String := token.signedText ++ "." ++ token.signature

/-- The three segments of a text that has two dots. -/
def ofText? (text : String) : Option CompactToken :=
  match text.toList.splitOn '.' with
  | [header, claims, signature] =>
    some ⟨String.ofList header, String.ofList claims, String.ofList signature⟩
  | _ => none

/-- The token of a header and claims, given as texts, under the signature of a key. -/
def sign (key : Rsa.PrivateKey) (header claims : String) : Except Rsa.KeyFault CompactToken := do
  let unsigned : CompactToken :=
    ⟨Base64Url.encode (Utf8.encode header), Base64Url.encode (Utf8.encode claims), ""⟩
  let signature ← key.sign (Utf8.encode unsigned.signedText)
  .ok { unsigned with signature := Base64Url.encode signature }

/-- Whether the signature is one of the first two segments. -/
def verify (key : Rsa.PublicKey) (token : CompactToken) : Bool :=
  match Base64Url.decode? token.signature with
  | some signature => key.verify (Utf8.encode token.signedText) signature
  | none => false

/-- The text that a segment holds. -/
def segmentText? (segment : String) : Option String := Base64Url.decode? segment >>= Utf8.decode?

end CompactToken

end CodeGrant
