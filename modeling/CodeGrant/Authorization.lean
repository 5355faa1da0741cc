import CodeGrant.Conditions
import CodeGrant.Form
import CodeGrant.Http.Response
import CodeGrant.Pkce
import CodeGrant.Store

/-! # Authorization

A client sends the user's browser to ask for a code.  There is nobody to consent:
a known client that shows one of its redirect URIs, a challenge and a resource
gets a code, and the browser is sent back with it (RFC 6749, section 4.1). -/

namespace CodeGrant

/-- What a client asks for when it wants a code; what it leaves out is empty. -/
structure AuthorizationRequest where
  clientId : String
  redirectUri : String
  responseType : String
  challenge : String
  challengeMethod : String
  resource : String
  state : String
  scope : String
  deriving DecidableEq, Repr

namespace AuthorizationRequest

/-- The request that parameters make. -/
def ofParams (params : Form.Params) : AuthorizationRequest where
  clientId := Form.get params "client_id"
  redirectUri := Form.get params "redirect_uri"
  responseType := Form.get params "response_type"
  challenge := Form.get params "code_challenge"
  challengeMethod := Form.get params "code_challenge_method"
  resource := Form.get params "resource"
  state := Form.get params "state"
  scope := Form.get params "scope"

/-- The request that a query makes; without a query everything is empty. -/
def ofQuery (query : Option String) : AuthorizationRequest :=
  ofParams (Form.decode (Utf8.encode (query.getD "")))

/-- Whether the request may have a code: the first thing that is wrong with it counts. -/
def check (store : Store) (request : AuthorizationRequest) : Except ProtocolError Unit :=
  match store.client? request.clientId with
  | none => .error (.invalidClient none)
  | some client =>
    if client.allowsRedirect request.redirectUri = false then .error (.invalidRedirectUri none)
    else if request.responseType ≠ "code" then .error .unsupportedResponseType
    else if request.challenge = "" ∨ request.challengeMethod ≠ Pkce.method then
      .error .challengeRequired
    else if request.resource = "" then .error .resourceRequired
    else .ok ()

/-- What a code for the request stands for. -/
def grant (request : AuthorizationRequest) (now : Instant) : Grant where
  clientId := request.clientId
  redirectUri := request.redirectUri
  challenge := request.challenge
  challengeMethod := request.challengeMethod
  resource := request.resource
  scope := request.scope
  expiresAt := now.addSeconds Grant.lifetime

end AuthorizationRequest

/-- Where the browser is sent: to the redirect URI, with the code and, unless it is empty, the state
of the client as parameters behind those that the URI has already. -/
def redirectLocation (redirectUri code state : String) : String :=
  redirectUri ++ (if redirectUri.toList.contains '?' then "&" else "?") ++ "code=" ++ code
    ++ (if state = "" then "" else "&state=" ++ Form.encodeText state)

/-- Answers a request for a code.  The code is put into the store only if the redirect can stand in
a header. -/
def answerAuthorization (conditions : Conditions) (store : Store) (query : Option String) :
    Except ProtocolError Http.Response × Store :=
  let request := AuthorizationRequest.ofQuery query
  match request.check store with
  | .error error => (.error error, store)
  | .ok () =>
    let code := conditions.draws.codeText
    let location := redirectLocation request.redirectUri code request.state
    if Http.Response.isHeaderSafe location then
      (.ok ((Http.Response.empty 302).setHeader "location" location),
        store.putCode code (request.grant conditions.now))
    else (.error (.invalidRedirectUri none), store)

end CodeGrant
