import CodeGrant.Text.Quoted
import CodeGrant.Token.Claims
import CodeGrant.Token.Compact
import CodeGrant.Token.Error
import CodeGrant.Token.Jwk

/-! # The token issuer

The issuer owns the signing key of a server.  It signs the claims of a token, and
publishes the public half of the key so that others can verify them. -/

namespace CodeGrant

/-- The issuer of tokens: the name it signs in, and its key. -/
structure TokenIssuer where
  name : String
  key : Rsa.PrivateKey
  deriving DecidableEq, Repr

namespace TokenIssuer

/-- The identifier of the signing key. -/
def keyId : String := "demo-key-1"

/-- How long a token is good for, in seconds. -/
def lifetime : Nat := 3600

/-- The issuer around a key, which must have two primes. -/
def ofKey (name : String) (key : Rsa.PrivateKey) : Except IssuerError TokenIssuer :=
  if key.primes.length = 2 then .ok ⟨name, key⟩ else .error (.keyEncoding .malformed)

/-- The header of every token. -/
def header : Json :=
  .object [("typ", .text "JWT"), ("alg", .text "RS256"), ("kid", .text keyId)]

/-- The claims of a token that is issued now. -/
def claims (issuer : TokenIssuer) (audience scope : String) (now : Instant) : Claims :=
  Claims.issue issuer.name audience scope now lifetime

/-- A token that is issued now. -/
def issueToken (issuer : TokenIssuer) (audience scope : String) (now : Instant) :
    Except IssuerError CompactToken :=
  match CompactToken.sign issuer.key header.render
      (issuer.claims audience scope now).document.render with
  | .ok token => .ok token
  | .error fault => .error (.signing (.invalidKey fault.name))

/-- The text of a token that is issued now. -/
def issueAt (issuer : TokenIssuer) (audience scope : String) (now : Instant) :
    Except IssuerError String :=
  (issuer.issueToken audience scope now).map CompactToken.toText

/-- The public half of the key. -/
def publicJwk (issuer : TokenIssuer) : Jwk := .ofPublicKey keyId issuer.key.toPublicKey

/-- The keys that are published. -/
def publicKeys (issuer : TokenIssuer) : JwkSet := ⟨[issuer.publicJwk]⟩

/-- The issuer as it is shown, without its key. -/
def describe (issuer : TokenIssuer) : String :=
  "TokenIssuer \x7b issuer: " ++ Text.quoted issuer.name ++ ", key_id: " ++ Text.quoted keyId
    ++ ", .. \x7d"

end TokenIssuer

/-- What the token endpoint answers. -/
structure TokenAnswer where
  accessToken : String
  tokenType : String
  /-- How long the token is good for, in seconds. -/
  expiresIn : Nat
  scope : String
  deriving DecidableEq, Repr

namespace TokenAnswer

/-- The answer as a document; an empty scope is left out. -/
def document (answer : TokenAnswer) : Json :=
  .object ([("access_token", .text answer.accessToken), ("token_type", .text answer.tokenType),
    ("expires_in", .int answer.expiresIn)] ++
      if answer.scope = "" then [] else [("scope", .text answer.scope)])

end TokenAnswer

end CodeGrant
