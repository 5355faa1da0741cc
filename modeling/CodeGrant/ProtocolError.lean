import CodeGrant.Json

/-! # Protocol errors

What the server answers when it does not do what it is asked.  Every error has a
code of the OAuth vocabulary, a status, and for most codes room for a description;
its document is an object with the code and, if there is one, the description. -/

namespace CodeGrant

/-- Why a request is refused. -/
inductive ProtocolError where
  /-- The request is malformed or lacks something. -/
  | invalidRequest (description : Option String)
  /-- The client is unknown or not the one that the code was issued to. -/
  | invalidClient (description : Option String)
  /-- The code is unknown, has expired or does not match. -/
  | invalidGrant (description : Option String)
  | unsupportedGrantType
  | unsupportedResponseType
  /-- A redirect URI is not acceptable. -/
  | invalidRedirectUri (description : Option String)
  /-- There are no redirect URIs. -/
  | invalidRedirectUris (description : Option String)
  | methodNotAllowed
  | notFound
  /-- The server failed. -/
  | serverError (description : Option String)
  deriving DecidableEq, Repr

namespace ProtocolError

/-- The code of an error. -/
def code : ProtocolError → String
  | invalidRequest _ => "invalid_request"
  | invalidClient _ => "invalid_client"
  | invalidGrant _ => "invalid_grant"
  | unsupportedGrantType => "unsupported_grant_type"
  | unsupportedResponseType => "unsupported_response_type"
  | invalidRedirectUri _ => "invalid_redirect_uri"
  | invalidRedirectUris _ => "invalid_redirect_uris"
  | methodNotAllowed => "method_not_allowed"
  | notFound => "not_found"
  | serverError _ => "server_error"

/-- The description of an error, if it has one. -/
def description? : ProtocolError → Option String
  | invalidRequest d | invalidClient d | invalidGrant d | invalidRedirectUri d
  | invalidRedirectUris d | serverError d => d
  | unsupportedGrantType | unsupportedResponseType | methodNotAllowed | notFound => none

/-- The status of an answer that carries an error. -/
def status : ProtocolError → Nat
  | methodNotAllowed => 405
  | notFound => 404
  | serverError _ => 500
  | _ => 400

/-- The document of an error. -/
def document (error : ProtocolError) : Json :=
  .object (("error", .text error.code) ::
    match error.description? with
    | some d => [("error_description", .text d)]
    | none => [])

/-! ## The refusals of the endpoints -/

/-- A registration without redirect URIs. -/
def redirectUrisMissing : ProtocolError := invalidRedirectUris (some "redirect_uris must be provided")

/-- A registration with a redirect URI of another scheme. -/
def redirectUriNotHttp : ProtocolError :=
  invalidRedirectUri (some "redirect_uris must be absolute http(s) URLs")

/-- An authorization request without a usable challenge. -/
def challengeRequired : ProtocolError :=
  invalidRequest (some "code_challenge required and must be S256")

/-- A request that names no resource. -/
def resourceRequired : ProtocolError := invalidRequest (some "resource parameter required")

/-- A code that comes too late. -/
def codeExpired : ProtocolError := invalidGrant (some "authorization code expired")

/-- A redirect URI other than the one that the code was issued for. -/
def redirectUriMismatch : ProtocolError := invalidGrant (some "redirect_uri mismatch")

/-- A resource other than the one that the code was issued for. -/
def resourceMismatch : ProtocolError := invalidGrant (some "resource mismatch")

/-- A verifier that does not fit the challenge. -/
def verifierMismatch : ProtocolError := invalidGrant (some "PKCE verification failed")

/-- A client whose URI cannot stand in a header. -/
def registrationUriInvalid : ProtocolError := serverError (some "invalid registration URI")

/-- A token that could not be signed. -/
def tokenNotIssued : ProtocolError := serverError (some "failed to issue token")

end ProtocolError

end CodeGrant
