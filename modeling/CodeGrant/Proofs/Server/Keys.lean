import CodeGrant.Proofs.Server.Run
import CodeGrant.Proofs.Token.Documents
import CodeGrant.Proofs.Token.Published

/-! # Tokens are accepted under the keys that the server tells

A server tells the keys of its issuer to everybody, whatever it was asked before
(`Server.tells_publicJwk`).  The keys are read back from the bytes of the answer, so whoever has
nothing else can tell the tokens of that issuer (`TokenIssuer.accepted_under_served_key`). -/

namespace CodeGrant

/-- A response tells one key and no other. -/
structure Jwk.ToldBy (jwk : Jwk) (response : Http.Response) : Prop where
  status : response.status = 200
  read : JwkSet.read (Utf8.encode response.body) = .ok ⟨[jwk]⟩
  members : (Json.object [("keys", .list [.object
    [("kty", .text jwk.keyType), ("kid", .text jwk.keyId), ("use", .text jwk.use),
      ("alg", .text jwk.algorithm), ("n", .text jwk.modulus), ("e", .text jwk.exponent)]])]).SaidBy
    response.body

/-- **The published key is told in every state of the server.** -/
theorem Server.tells_publicJwk (server : Server) (store : Store) {a : Arrival}
    (hmethod : a.request.method = "GET") (hpath : a.request.target.path = Endpoint.keys.path) :
    server.tokens.publicJwk.ToldBy (server.exchange store a).response := by
  have hlooks : a.request.LooksAt .keys := ⟨.inl hmethod, hpath⟩
  have hhandle := server.handle_served a.conditions store hpath (hlooks.serves rfl)
  have hsaid : server.tokens.publicKeys.document.SaidBy (server.exchange store a).response.body := by
    rw [exchange_of_handle hhandle]
    exact saidBy_finish (by rw [hmethod]; decide) rfl
  refine ⟨?_, ?_, hsaid⟩
  · rw [exchange_of_handle hhandle]
    exact status_finish _ _
  · rw [hsaid.written]
    exact JwkSet.read_render_document _

namespace TokenIssuer

/-- **A token is accepted under the one key that the server tells.**  The text of a token is three
base64url segments between dots.  Its header names the key that is read in the answer of every server
of the issuer, in every state that it comes to, and the public key that is read off this one accepts
the last segment as a signature of the first two. -/
theorem accepted_under_served_key {name : String} {key : Rsa.PrivateKey} {issuer : TokenIssuer}
    {p q : Nat} {audience scope text : String} {now : Instant} (hissuer : ofKey name key = .ok issuer)
    (hkey : key.IsMadeOf p q) (htext : issuer.issueAt audience scope now = .ok text) :
    ∃ (token : CompactToken) (jwk : Jwk),
      text = token.header ++ "." ++ token.claims ++ "." ++ token.signature ∧
      CompactToken.ofText? text = some token ∧ token.IsAcceptedUnder jwk ∧
      jwk.publicKey? = some key.toPublicKey ∧
      ∀ server : Server, server.tokens = issuer →
        ∀ (start : Instant) (earlier : List Arrival) (a : Arrival),
          a.request.method = "GET" → a.request.target.path = "/.well-known/jwks.json" →
          jwk.ToldBy (server.exchange (server.storeAfter (.initial start) earlier) a).response := by
  obtain rfl : key = issuer.key := by
    unfold ofKey at hissuer
    split at hissuer
    · cases hissuer
      rfl
    · cases hissuer
  obtain ⟨token, hsign, rfl⟩ := exists_sign_of_issueAt htext
  refine ⟨token, issuer.publicJwk, rfl, (CompactToken.of_sign hsign).1,
    isAcceptedUnder_publicJwk hkey hsign, Jwk.publicKey?_ofPublicKey _ _, ?_⟩
  rintro server rfl start earlier a hmethod hpath
  exact server.tells_publicJwk _ hmethod hpath

/-- A token of the sample server is accepted under the key that the server tells. -/
theorem accepted_under_served_key_of_proven :
    ∃ text, Sample.server.tokens.issueAt "http://localhost:9000/mcp" "read" ⟨0, 0⟩ = .ok text ∧
      ∃ (token : CompactToken) (jwk : Jwk), CompactToken.ofText? text = some token ∧
        token.IsAcceptedUnder jwk ∧
        jwk.ToldBy (Sample.server.exchange (.initial ⟨0, 0⟩) ⟨Sample.conditions,
          ⟨"GET", ⟨"/.well-known/jwks.json", none⟩, [], some []⟩⟩).response := by
  have hissuer : ofKey "http://localhost:9000" Rsa.provenKey = .ok Sample.server.tokens := rfl
  obtain ⟨text, htext⟩ :=
    Sample.exists_issueAt "http://localhost:9000/mcp" "read" ⟨0, 0⟩
  obtain ⟨token, jwk, -, htoken, haccepted, -, htold⟩ :=
    accepted_under_served_key hissuer Rsa.isMadeOf_provenKey htext
  exact ⟨text, htext, token, jwk, htoken, haccepted, htold Sample.server rfl ⟨0, 0⟩ [] _ rfl rfl⟩

end TokenIssuer

end CodeGrant
