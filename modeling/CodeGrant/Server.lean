import CodeGrant.Authorization
import CodeGrant.Redemption
import CodeGrant.Registration

/-! # The server

A server has a configuration and a token issuer.  It handles a request under given
conditions as a function from stores to stores (`Server.handle`):

* a preflight (method `OPTIONS`) is answered before anything else is looked at;
* a path that is no endpoint, and a method that an endpoint does not serve, are
  errors;
* an endpoint that serves `GET` serves `HEAD` as well, and a response to `HEAD`
  has the header fields of the body that it leaves out;
* every response may be read by a page from anywhere (`Response.withCors`). -/

namespace CodeGrant

open Http (Request Response)

/-- The version that the server tells. -/
def version : String := "0.1.0"

/-- The name that the server tells. -/
def serviceName : String := "mcp-authserver"

/-- The answer to a check of health. -/
def healthDocument : Json :=
  .object [("service", .text serviceName), ("status", .text "ok"), ("version", .text version)]

/-- The description of the server (RFC 8414). -/
def Config.metadata (config : Config) : Json :=
  .object
    [("authorization_endpoint", .text (config.endpoint .authorization)),
     ("code_challenge_methods_supported", .texts [Pkce.method]),
     ("grant_types_supported", .texts [TokenRequest.codeGrantType]),
     ("issuer", .text config.issuer),
     ("jwks_uri", .text (config.endpoint .keys)),
     ("registration_endpoint", .text (config.endpoint .registration)),
     ("response_types_supported", .texts ["code"]),
     ("token_endpoint", .text (config.endpoint .token)),
     ("token_endpoint_auth_methods_supported", .texts [Client.noAuth])]

namespace Endpoint

/-- Whether the endpoint reads what is posted to it; the others are only looked at. -/
def isPosted : Endpoint → Bool
  | registration | token => true
  | health | metadata | keys | authorization => false

/-- The methods that the endpoint serves. -/
def methods (e : Endpoint) : List String := if e.isPosted then ["POST"] else ["GET", "HEAD"]

/-- Whether the endpoint serves a method; methods are compared character for character. -/
def serves (e : Endpoint) (method : String) : Bool := e.methods.contains method

end Endpoint

namespace Http.Response

/-- Lists the methods that an endpoint serves. -/
def withAllow (e : Endpoint) (response : Response) : Response :=
  response.setHeader "allow" (",".intercalate e.methods)

/-- Lets pages from anywhere read the response. -/
def withCors (response : Response) : Response :=
  (((response.setHeader "access-control-allow-origin" "*").setHeader
    "access-control-allow-methods" "GET, POST, OPTIONS").setHeader
    "access-control-allow-headers" "Authorization, Content-Type").setHeader
    "access-control-max-age" "600"

/-- The response of an endpoint that answered or refused. -/
def ofResult : Except ProtocolError Response → Response
  | .ok response => response
  | .error error => ofError error

end Http.Response

/-- A server. -/
structure Server where
  config : Config
  tokens : TokenIssuer
  deriving DecidableEq, Repr

namespace Server

/-- What an endpoint answers to a method that it serves. -/
def answer (server : Server) (conditions : Conditions) (store : Store) (request : Request) :
    Endpoint → Except ProtocolError Response × Store
  | .health => (.ok (.json 200 healthDocument), store)
  | .registration => answerRegistration server.config conditions store request.readBody
  | .metadata => (.ok (.json 200 server.config.metadata), store)
  | .keys => (.ok (.json 200 server.tokens.publicKeys.document), store)
  | .authorization => answerAuthorization conditions store request.target.query
  | .token => answerRedemption server.tokens conditions store request

/-- What an endpoint answers to any method. -/
def respond (server : Server) (conditions : Conditions) (store : Store) (request : Request)
    (e : Endpoint) : Response × Store :=
  if request.method = "OPTIONS" then ((Response.empty 204).withAllow e, store)
  else if e.serves request.method then
    let (result, store) := server.answer conditions store request e
    (.ofResult result, store)
  else ((Response.ofError .methodNotAllowed).withAllow e, store)

/-- What is answered at a path that is no endpoint. -/
def respondElsewhere (request : Request) : Response :=
  if request.method = "OPTIONS" then .empty 204 else .ofError .notFound

/-- The last touches to a response: its length, leave to read it, and no body for `HEAD`. -/
def finish (request : Request) (response : Response) : Response :=
  let response := response.withLength.withCors
  if request.method = "HEAD" then response.withoutBody else response

/-- **Handles a request.** -/
def handle (server : Server) (conditions : Conditions) (store : Store) (request : Request) :
    Response × Store :=
  match Endpoint.ofPath? request.target.path with
  | none => (finish request (respondElsewhere request), store)
  | some e =>
    let (response, store) := server.respond conditions store request e
    (finish request response, store)

/-- The server as it is shown. -/
def describe (server : Server) : String :=
  "AuthServer \x7b config: " ++ server.config.describe ++ ", .. \x7d"

/-- What the endpoints of a server share, as it is shown. -/
def describeState (server : Server) : String :=
  "AppState \x7b config: " ++ server.config.describe ++ ", tokens: " ++ server.tokens.describe
    ++ ", .. \x7d"

end Server

/-- A store as it is shown: what it holds is not told. -/
def Store.describe (_ : Store) : String := "MemoryStore"

end CodeGrant
