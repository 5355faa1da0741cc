import CodeGrant.Base64Url
import CodeGrant.Json.Shape
import CodeGrant.Rsa

/-! # Published keys

The public half of a signing key is published as a JSON Web Key (RFC 7517): its
modulus and exponent are big-endian bytes, without zero bytes in front, in
base64url. -/

namespace CodeGrant

/-- A published key. -/
structure Jwk where
  keyType : String
  keyId : String
  use : String
  algorithm : String
  modulus : String
  exponent : String
  deriving DecidableEq, Repr

namespace Jwk

/-- The members of the document and what they must look like. -/
def shape : Json.Shape :=
  .record [("kty", .text), ("kid", .text), ("use", .text), ("alg", .text), ("n", .text),
    ("e", .text)]

/-- The key as a document. -/
def document (key : Jwk) : Json :=
  .object [("kty", .text key.keyType), ("kid", .text key.keyId), ("use", .text key.use),
    ("alg", .text key.algorithm), ("n", .text key.modulus), ("e", .text key.exponent)]

/-- The key that a document holds. -/
def ofDocument? : Json → Option Jwk
  | .object [("kty", .text keyType), ("kid", .text keyId), ("use", .text use),
      ("alg", .text algorithm), ("n", .text modulus), ("e", .text exponent)] =>
    some ⟨keyType, keyId, use, algorithm, modulus, exponent⟩
  | _ => none

@[simp] theorem ofDocument?_document (key : Jwk) : ofDocument? key.document = some key := by
  simp [document, ofDocument?]

/-- Reads a key. -/
def read (bytes : Bytes) : Except Json.Fault Jwk := do
  match ofDocument? (← shape.read bytes) with
  | some key => .ok key
  | none => .error .mismatch

/-- An RSA key that checks signatures, under an identifier. -/
def ofPublicKey (keyId : String) (key : Rsa.PublicKey) : Jwk where
  keyType := "RSA"
  keyId := keyId
  use := "sig"
  algorithm := "RS256"
  modulus := Base64Url.encode (Bytes.ofNat key.modulus)
  exponent := Base64Url.encode (Bytes.ofNat key.exponent)

/-- The RSA key that is published. -/
def publicKey? (key : Jwk) : Option Rsa.PublicKey := do
  let modulus ← Base64Url.decode? key.modulus
  let exponent ← Base64Url.decode? key.exponent
  some ⟨Bytes.toNat modulus, Bytes.toNat exponent⟩

end Jwk

/-- The keys that a server publishes. -/
structure JwkSet where
  keys : List Jwk
  deriving DecidableEq, Repr

namespace JwkSet

/-- The member of the document and what it must look like. -/
def shape : Json.Shape := .record [("keys", .list Jwk.shape)]

/-- The keys as a document. -/
def document (set : JwkSet) : Json := .object [("keys", .list (set.keys.map Jwk.document))]

/-- The keys that a document holds. -/
def ofDocument? : Json → Option JwkSet
  | .object [("keys", .list items)] => (items.mapM Jwk.ofDocument?).map (⟨·⟩)
  | _ => none

@[simp] theorem ofDocument?_document (set : JwkSet) : ofDocument? set.document = some set := by
  obtain ⟨keys⟩ := set
  have h : (keys.map Jwk.document).mapM Jwk.ofDocument? = some keys := by
    induction keys with
    | nil => rfl
    | cons key keys ih => simp [List.mapM_cons, ih]
  simp [document, ofDocument?, h]

/-- Reads keys. -/
def read (bytes : Bytes) : Except Json.Fault JwkSet := do
  match ofDocument? (← shape.read bytes) with
  | some set => .ok set
  | none => .error .mismatch

end JwkSet

end CodeGrant
