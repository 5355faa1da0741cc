import CodeGrant.Conditions
import CodeGrant.Form
import CodeGrant.Http.Request
import CodeGrant.Http.Response
import CodeGrant.Pkce
import CodeGrant.Store
import CodeGrant.Text.Blank
import CodeGrant.Token.Issuer

/-! # Redemption

The bearer of a code exchanges it for a token (RFC 6749, section 4.1.3).  It shows
who it is, what the code was asked for, and the verifier of the challenge.  A code
that is shown with something wrong stays good; a code that is accepted is gone,
also if its token cannot be signed. -/

namespace CodeGrant

/-- What the bearer of a code shows; what it leaves out is empty. -/
structure TokenRequest where
  grantType : String
  code : String
  clientId : String
  verifier : String
  resource : String
  redirectUri : String
  deriving DecidableEq, Repr

namespace TokenRequest

/-- The request that parameters make. -/
def ofParams (params : Form.Params) : TokenRequest where
  grantType := Form.get params "grant_type"
  code := Form.get params "code"
  clientId := Form.get params "client_id"
  verifier := Form.get params "code_verifier"
  resource := Form.get params "resource"
  redirectUri := Form.get params "redirect_uri"

/-- The only type of grant that is redeemed. -/
def codeGrantType : String := "authorization_code"

/-- The type of a body with form-encoded parameters. -/
def formType : String := "application/x-www-form-urlencoded"

/-- The text of a header value, if it is visible ASCII, spaces and tabs. -/
def headerText? (value : Bytes) : Option String :=
  if value.all fun b => b == 0x09 || (0x20 ≤ b && b ≤ 0x7E) then
    some (String.ofList (value.map fun b => Char.ofNat b.toNat))
  else none

/-- What stands before the first semicolon, without white space around it. -/
def mediaType (text : String) : String :=
  Text.trim (String.ofList (text.toList.takeWhile (· != ';')))

/-- Whether a header value declares form-encoded parameters. -/
def declaresForm (value : Bytes) : Bool :=
  match headerText? value with
  | some text => Http.Request.lower (mediaType text) == formType
  | none => false

/-- Whether the body of a request is declared to hold form-encoded parameters. -/
def hasForm (request : Http.Request) : Bool :=
  match request.header? "content-type" with
  | some value => declaresForm value
  | none => false

/-- The token request that a body makes; a body of another type makes an empty one. -/
def ofBody (request : Http.Request) (body : Bytes) : TokenRequest :=
  ofParams (if hasForm request then Form.decode body else [])

/-- Whether the bearer may have the token of a grant: the first thing that is wrong counts. -/
def check (request : TokenRequest) (grant : Grant) : Except ProtocolError Unit :=
  if request.clientId ≠ grant.clientId then .error (.invalidClient none)
  else if request.redirectUri ≠ "" ∧ request.redirectUri ≠ grant.redirectUri then
    .error .redirectUriMismatch
  else if request.resource = "" then .error .resourceRequired
  else if request.resource ≠ grant.resource then .error .resourceMismatch
  else if Pkce.verify request.verifier grant.challenge = false then .error .verifierMismatch
  else .ok ()

end TokenRequest

/-- The response that carries a token; it must not be kept in a cache. -/
def tokenResponse (answer : TokenAnswer) : Http.Response :=
  ((Http.Response.json 200 answer.document).setHeader "cache-control" "no-store").setHeader
    "pragma" "no-cache"

/-- Answers the bearer of a code. -/
def answerRedemption (tokens : TokenIssuer) (conditions : Conditions) (store : Store)
    (request : Http.Request) : Except ProtocolError Http.Response × Store :=
  match request.readBody with
  | none => (.error (.invalidRequest none), store)
  | some body =>
    let form := TokenRequest.ofBody request body
    if form.grantType ≠ TokenRequest.codeGrantType then (.error .unsupportedGrantType, store)
    else
      match store.redeem form.code conditions.now form.check with
      | (.error error, store) => (.error error, store)
      | (.ok grant, store) =>
        match tokens.issueAt grant.resource grant.scope conditions.signedAt with
        | .error error => (.error error.toProtocolError, store)
        | .ok token =>
          (.ok (tokenResponse ⟨token, "Bearer", TokenIssuer.lifetime, grant.scope⟩), store)

end CodeGrant
