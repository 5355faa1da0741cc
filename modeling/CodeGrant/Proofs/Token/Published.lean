import CodeGrant.Proofs.Rsa
import CodeGrant.Proofs.Token.Compact

/-! # Tokens under a published key

A published key reads as the key that it was made of (`Jwk.publicKey?_ofPublicKey`), and a
token that was issued is accepted by whoever goes by the published key alone
(`TokenIssuer.isAcceptedUnder_publicJwk`): its header names the key, and its signature is
one of its first two segments. -/

namespace CodeGrant

/-- **A published key reads as the key that it was made of.** -/
@[simp] theorem Jwk.publicKey?_ofPublicKey (keyId : String) (key : Rsa.PublicKey) :
    (Jwk.ofPublicKey keyId key).publicKey? = some key := by
  simp [ofPublicKey, publicKey?]

namespace CompactToken

variable {key : Rsa.PrivateKey} {p q : Nat} {header claims : String} {token : CompactToken}

/-- **A signed token is accepted under the public half of the key.** -/
theorem verify_of_sign (hkey : key.IsMadeOf p q) (h : sign key header claims = .ok token) :
    token.verify key.toPublicKey = true := by
  obtain ⟨signature, hsignature, htoken⟩ := exists_signature_of_sign h
  have hsegment : token.signature = Base64Url.encode signature := by rw [htoken]
  rw [verify, hsegment, Base64Url.decode?_encode]
  exact Rsa.PrivateKey.verify_of_sign hkey hsignature

/-- Whether a token is accepted by whoever goes by a published key: it is made of three base64url
segments, its header is read as an object that names the key and the algorithm, and the key that is
read off the published one accepts its signature. -/
structure IsAcceptedUnder (token : CompactToken) (jwk : Jwk) : Prop where
  segments : ∀ segment ∈ [token.header, token.claims, token.signature],
    (Base64Url.decode? segment).isSome
  header : ∃ text members, segmentText? token.header = some text ∧
    (Json.object members).SaidBy text ∧
    members.lookup "kid" = some (.text jwk.keyId) ∧
    members.lookup "alg" = some (.text jwk.algorithm)
  signature : ∃ key, jwk.publicKey? = some key ∧ token.verify key = true

end CompactToken

namespace TokenIssuer

variable {issuer : TokenIssuer}

/-- **A token that was issued is accepted under the key that its issuer publishes.** -/
theorem isAcceptedUnder_publicJwk {p q : Nat} {claims : String} {token : CompactToken}
    (hkey : issuer.key.IsMadeOf p q)
    (h : CompactToken.sign issuer.key header.render claims = .ok token) :
    token.IsAcceptedUnder issuer.publicJwk := by
  obtain ⟨signature, -, htoken⟩ := CompactToken.exists_signature_of_sign h
  refine ⟨?_, ?_, issuer.key.toPublicKey, Jwk.publicKey?_ofPublicKey _ _,
    CompactToken.verify_of_sign hkey h⟩
  · rw [htoken]
    simp
  · refine ⟨_, [("typ", .text "JWT"), ("alg", .text "RS256"), ("kid", .text keyId)], ?_,
      Json.saidBy_render _, rfl, rfl⟩
    rw [htoken]
    exact CompactToken.segmentText?_encode header.render

end TokenIssuer

end CodeGrant
