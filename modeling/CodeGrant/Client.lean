import CodeGrant.Instant

/-! # Clients

A client is registered with the redirect URIs at which it wants to receive codes.
A client that authenticates by nothing but its proof key is public and has no
secret. -/

namespace CodeGrant

/-- A registered client. -/
structure Client where
  id : String
  /-- Empty for a public client. -/
  secret : String
  redirectUris : List String
  /-- How the client authenticates when it redeems a code. -/
  authMethod : String
  /-- When it was registered, in whole seconds since the start of 1970. -/
  issuedAt : Int
  deriving DecidableEq, Repr

namespace Client

/-- The method of a client that does not authenticate. -/
def noAuth : String := "none"

/-- Whether a redirect URI is one of the client's, character for character. -/
def allowsRedirect (client : Client) (uri : String) : Bool := client.redirectUris.contains uri

/-- Whether the client authenticates by its proof key alone. -/
def isPublic (client : Client) : Bool := client.authMethod == noAuth

theorem allowsRedirect_iff (client : Client) (uri : String) :
    client.allowsRedirect uri = true ↔ uri ∈ client.redirectUris := by
  simp [allowsRedirect]

/-- The client that is there from the start. -/
def sample (now : Instant) : Client where
  id := "sample-client"
  secret := "secret"
  redirectUris := ["http://localhost:8081/callback"]
  authMethod := noAuth
  issuedAt := now.seconds

end Client

end CodeGrant
