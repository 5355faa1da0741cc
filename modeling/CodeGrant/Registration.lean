import CodeGrant.Conditions
import CodeGrant.Config
import CodeGrant.Http.Response
import CodeGrant.Json.Shape
import CodeGrant.Store

/-! # Registration

A client registers by a document with its redirect URIs and, if it likes, the
method by which it wants to authenticate (RFC 7591).  It gets an identifier, and a
secret if its method is any but `none`. -/

namespace CodeGrant

/-- What a client asks for when it registers. -/
structure RegistrationRequest where
  redirectUris : Option (List String)
  authMethod : Option String
  deriving DecidableEq, Repr

namespace RegistrationRequest

/-- The members of the document and what they must look like. -/
def shape : Json.Shape :=
  .record [("redirect_uris", .optional (.list .text)),
    ("token_endpoint_auth_method", .optional .text)]

/-- The text of a text value. -/
def textOf? : Json → Option String
  | .text s => some s
  | _ => none

/-- The redirect URIs of a member that is a list of texts or `null`. -/
def urisOf? : Json → Option (Option (List String))
  | .null => some none
  | .list items => (items.mapM textOf?).map some
  | _ => none

/-- The method of a member that is a text or `null`. -/
def methodOf? : Json → Option (Option String)
  | .null => some none
  | .text s => some (some s)
  | _ => none

/-- The request that a document holds. -/
def ofDocument? : Json → Option RegistrationRequest
  | .object [("redirect_uris", uris), ("token_endpoint_auth_method", method)] => do
    some ⟨← urisOf? uris, ← methodOf? method⟩
  | _ => none

/-- Reads a request. -/
def read (bytes : Bytes) : Except Json.Fault RegistrationRequest := do
  match ofDocument? (← shape.read bytes) with
  | some request => .ok request
  | none => .error .mismatch

end RegistrationRequest

/-- Whether a redirect URI has one of the two schemes of the web. -/
def isHttpUri (uri : String) : Bool :=
  "http://".toList.isPrefixOf uri.toList || "https://".toList.isPrefixOf uri.toList

/-- The method that was asked for, unless it is empty, and else none. -/
def chooseAuthMethod : Option String → String
  | some method => if method = "" then Client.noAuth else method
  | none => Client.noAuth

namespace Client

/-- The client that is registered with these redirect URIs and this method. -/
def register (conditions : Conditions) (redirectUris : List String) (authMethod : Option String) :
    Client :=
  let method := chooseAuthMethod authMethod
  { id := conditions.draws.clientIdText
    secret := if method = noAuth then "" else conditions.draws.clientSecretText
    redirectUris := redirectUris
    authMethod := method
    issuedAt := conditions.now.seconds }

/-- The client as it is told to the one who registered it. -/
def document (config : Config) (client : Client) : Json :=
  .object ([("client_id", .text client.id), ("client_id_issued_at", .int client.issuedAt)]
    ++ (if client.secret = "" then [] else [("client_secret", .text client.secret)])
    ++ [("redirect_uris", .texts client.redirectUris),
      ("registration_client_uri", .text (config.clientUri client.id)),
      ("token_endpoint_auth_method", .text client.authMethod)])

end Client

namespace Store

/-- Registers a client, unless it has no redirect URIs or one that is not of the web. -/
def register (store : Store) (conditions : Conditions) (redirectUris : List String)
    (authMethod : Option String) : Except ProtocolError Client × Store :=
  if redirectUris = [] then (.error .redirectUrisMissing, store)
  else if redirectUris.all isHttpUri then
    let client := Client.register conditions redirectUris authMethod
    (.ok client, store.insertClient client)
  else (.error .redirectUriNotHttp, store)

end Store

/-- Answers a registration.  The client is in the store before its URI is found unfit for a
header. -/
def answerRegistration (config : Config) (conditions : Conditions) (store : Store)
    (body : Option Bytes) : Except ProtocolError Http.Response × Store :=
  match body.map RegistrationRequest.read with
  | some (.ok request) =>
    match store.register conditions (request.redirectUris.getD []) request.authMethod with
    | (.error error, store) => (.error error, store)
    | (.ok client, store) =>
      let location := config.clientUri client.id
      if Http.Response.isHeaderSafe location then
        (.ok ((Http.Response.json 201 (client.document config)).setHeader "location" location),
          store)
      else (.error .registrationUriInvalid, store)
  | _ => (.error (.invalidRequest none), store)

end CodeGrant
