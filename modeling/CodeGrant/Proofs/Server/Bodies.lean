import CodeGrant.Proofs.Config
import CodeGrant.Proofs.Json.Value
import CodeGrant.Server

/-! # What the bodies of responses say

An error, a token and a client are told in one object each.  The members of these objects are spelled
out here, by their names and in their order, as whoever reads the bytes of a body finds them
(`Json.SaidBy`).  The documents that the server sends are these objects
(`ProtocolError.document_eq`, `TokenAnswer.document_eq`, `Client.document_eq`). -/

namespace CodeGrant

/-! ## Errors -/

/-- The object that tells an error by its code and, if there is one, by a description. -/
def Json.ofError (code : String) (description? : Option String) : Json :=
  .object (("error", .text code) ::
    (description?.map fun description => ("error_description", .text description)).toList)

namespace ProtocolError

/-- The codes of the errors, each with its status. -/
def wireCodes : List (String × Nat) :=
  [("invalid_request", 400), ("invalid_client", 400), ("invalid_grant", 400),
    ("unsupported_grant_type", 400), ("unsupported_response_type", 400),
    ("invalid_redirect_uri", 400), ("invalid_redirect_uris", 400), ("method_not_allowed", 405),
    ("not_found", 404), ("server_error", 500)]

theorem code_mem_wireCodes (error : ProtocolError) : (error.code, error.status) ∈ wireCodes := by
  cases error <;> simp [wireCodes, code, status]

/-- An error never goes by the status of a success. -/
theorem le_of_mem_wireCodes {code : String} {status : Nat} (h : (code, status) ∈ wireCodes) :
    400 ≤ status := by
  have hall : ∀ wire ∈ wireCodes, 400 ≤ wire.2 := by decide
  exact hall _ h

/-- **The document of an error is the object that tells it.** -/
theorem document_eq (error : ProtocolError) :
    error.document = .ofError error.code error.description? := by
  rw [document, Json.ofError]
  cases error.description? <;> rfl

end ProtocolError

/-! ## Tokens -/

/-- The object that hands out a token for an hour; an empty scope is left out. -/
def Json.ofToken (token scope : String) : Json :=
  .object ([("access_token", .text token), ("token_type", .text "Bearer"),
    ("expires_in", .int 3600)] ++ if scope = "" then [] else [("scope", .text scope)])

/-- **The document of a token is the object that hands it out.** -/
theorem TokenAnswer.document_eq (token scope : String) :
    document ⟨token, "Bearer", TokenIssuer.lifetime, scope⟩ = .ofToken token scope := rfl

/-! ## Clients -/

namespace Client

/-- The members by which a client is told. -/
def members (config : Config) (client : Client) : List (String × Json) :=
  [("client_id", .text client.id), ("client_id_issued_at", .int client.issuedAt)]
    ++ (if client.secret = "" then [] else [("client_secret", .text client.secret)])
    ++ [("redirect_uris", .texts client.redirectUris),
      ("registration_client_uri", .text (config.issuer ++ "/register/" ++ client.id)),
      ("token_endpoint_auth_method", .text client.authMethod)]

variable (config : Config) (client : Client)

/-- **The document of a client has these members.** -/
theorem document_eq : client.document config = .object (client.members config) := by
  rw [document, members, Config.clientUri_eq]

theorem nodup_members : ((client.members config).map Prod.fst).Nodup := by
  unfold members
  split <;> simp

/-- Each member can be found but for the secret, which may be left out. -/
theorem lookup_members :
    (client.members config).lookup "client_id" = some (.text client.id) ∧
    (client.members config).lookup "redirect_uris" = some (.texts client.redirectUris) ∧
    (client.members config).lookup "token_endpoint_auth_method" = some (.text client.authMethod) ∧
    (client.members config).lookup "client_id_issued_at" = some (.int client.issuedAt) ∧
    (client.members config).lookup "registration_client_uri"
      = some (.text (config.issuer ++ "/register/" ++ client.id)) ∧
    (client.members config).lookup "client_secret" =
      if client.secret = "" then none else some (.text client.secret) := by
  unfold members
  split <;> exact ⟨rfl, rfl, rfl, rfl, rfl, rfl⟩

end Client

end CodeGrant
