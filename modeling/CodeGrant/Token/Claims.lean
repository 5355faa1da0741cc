import CodeGrant.Instant
import CodeGrant.Json.Shape

/-! # Claims

What a token says: who issued it, for which audience and scope, and from when to
when it is good.  The document of the claims has its five members in a fixed order
(`Claims.document`); it can be read with the members in any order (`Claims.read`). -/

namespace CodeGrant

/-- What a token says. -/
structure Claims where
  issuer : String
  audience : String
  scope : String
  /-- When the token was issued, in whole seconds since the start of 1970. -/
  issuedAt : Int64
  /-- When it ends. -/
  expiresAt : Int64
  deriving DecidableEq, Repr

namespace Claims

/-- The members of the document and what they must look like. -/
def shape : Json.Shape :=
  .record [("iss", .text), ("aud", .text), ("scope", .text), ("iat", .int64), ("exp", .int64)]

/-- The claims as a document. -/
def document (claims : Claims) : Json :=
  .object [("iss", .text claims.issuer), ("aud", .text claims.audience),
    ("scope", .text claims.scope), ("iat", .int claims.issuedAt.toInt),
    ("exp", .int claims.expiresAt.toInt)]

/-- The claims that a document holds. -/
def ofDocument? : Json → Option Claims
  | .object [("iss", .text issuer), ("aud", .text audience), ("scope", .text scope),
      ("iat", .int issuedAt), ("exp", .int expiresAt)] =>
    some ⟨issuer, audience, scope, Int64.ofInt issuedAt, Int64.ofInt expiresAt⟩
  | _ => none

/-- **The document of claims holds these claims.** -/
@[simp] theorem ofDocument?_document (claims : Claims) :
    ofDocument? claims.document = some claims := by
  simp [document, ofDocument?]

/-- Reads claims. -/
def read (bytes : Bytes) : Except Json.Fault Claims := do
  match ofDocument? (← shape.read bytes) with
  | some claims => .ok claims
  | none => .error .mismatch

/-- A number of seconds in sixty-four bits; what is out of range becomes the nearest end of it. -/
def clampSeconds (n : Int) : Int64 :=
  Int64.ofInt (max Int64.minValue.toInt (min n Int64.maxValue.toInt))

/-- The claims of a token that is issued now and lives for `lifetime` seconds. -/
def issue (issuer audience scope : String) (now : Instant) (lifetime : Nat) : Claims where
  issuer := issuer
  audience := audience
  scope := scope
  issuedAt := clampSeconds now.seconds
  expiresAt := clampSeconds ((clampSeconds now.seconds).toInt + lifetime)

end Claims

end CodeGrant
