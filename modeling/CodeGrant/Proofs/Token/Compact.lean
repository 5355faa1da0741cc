import CodeGrant.Proofs.Base64Url
import CodeGrant.Proofs.Json.Value
import CodeGrant.Proofs.Text.Utf8
import CodeGrant.Token.Issuer

/-! # What an issued token says

The text of an issued token has three segments, and the second one holds the claims
that were issued (`TokenIssuer.claims_of_issueAt`).  A text says one thing only
(`Claims.SaidBy.unique`), so the claims of a token are those that anybody reads off it.
A token is issued exactly when nothing is wrong with the key. -/

namespace CodeGrant

/-! ## Segments -/

namespace CompactToken

/-- No segment holds the dot that stands between segments. -/
theorem dot_notMem_encode (bytes : Bytes) : '.' ∉ (Base64Url.encode bytes).toList := by
  intro h
  have := Base64Url.value?_isSome_of_mem_encode h
  exact absurd this (by decide)

/-- **The segments of a token are found again in its text.** -/
theorem ofText?_toText {token : CompactToken} (hheader : '.' ∉ token.header.toList)
    (hclaims : '.' ∉ token.claims.toList) (hsignature : '.' ∉ token.signature.toList) :
    ofText? token.toText = some token := by
  have htext : token.toText.toList =
      token.header.toList ++ '.' :: (token.claims.toList ++ '.' :: token.signature.toList) := by
    simp [toText, signedText]
  rw [ofText?, htext, List.splitOn_append_cons_self_of_not_mem hheader,
    List.splitOn_append_cons_self_of_not_mem hclaims, List.splitOn_eq_singleton hsignature]
  simp

@[simp] theorem segmentText?_encode (text : String) :
    segmentText? (Base64Url.encode (Utf8.encode text)) = some text := by
  simp [segmentText?]

/-- The segments of a signed token, the last of which holds a signature of the first two. -/
theorem exists_signature_of_sign {key : Rsa.PrivateKey} {header claims : String}
    {token : CompactToken} (h : sign key header claims = .ok token) :
    ∃ signature, key.sign (Utf8.encode token.signedText) = .ok signature ∧
      token = ⟨Base64Url.encode (Utf8.encode header), Base64Url.encode (Utf8.encode claims),
        Base64Url.encode signature⟩ := by
  rw [sign] at h
  generalize hunsigned : (⟨Base64Url.encode (Utf8.encode header),
    Base64Url.encode (Utf8.encode claims), ""⟩ : CompactToken) = unsigned at h
  cases hsignature : key.sign (Utf8.encode unsigned.signedText) with
  | error fault =>
    simp only [hsignature] at h
    cases h
  | ok signature =>
    simp only [hsignature] at h
    cases h
    exact ⟨signature, hsignature, by rw [← hunsigned]⟩

/-- A signed token holds the texts that it was made of. -/
theorem of_sign {key : Rsa.PrivateKey} {header claims : String} {token : CompactToken}
    (h : sign key header claims = .ok token) :
    ofText? token.toText = some token ∧ segmentText? token.claims = some claims := by
  obtain ⟨signature, -, rfl⟩ := exists_signature_of_sign h
  exact ⟨ofText?_toText (dot_notMem_encode _) (dot_notMem_encode _) (dot_notMem_encode _),
    segmentText?_encode claims⟩

end CompactToken

/-! ## Claims -/

/-- Whether a text is a token with these claims: its second segment holds the text of an object with
five members. -/
def Claims.SaidBy (claims : Claims) (text : String) : Prop :=
  ∃ token payload, CompactToken.ofText? text = some token ∧
    CompactToken.segmentText? token.claims = some payload ∧
    (Json.object [("iss", .text claims.issuer), ("aud", .text claims.audience),
      ("scope", .text claims.scope), ("iat", .int claims.issuedAt.toInt),
      ("exp", .int claims.expiresAt.toInt)]).SaidBy payload

/-- **A text says one thing only.** -/
theorem Claims.SaidBy.unique {claims other : Claims} {text : String} (h : claims.SaidBy text)
    (h' : other.SaidBy text) : claims = other := by
  obtain ⟨token, payload, htoken, hpayload, hclaims⟩ := h
  obtain ⟨token', payload', htoken', hpayload', hother⟩ := h'
  obtain rfl := Option.some.inj (htoken.symm.trans htoken')
  obtain rfl := Option.some.inj (hpayload.symm.trans hpayload')
  have hdocument : claims.document = other.document := hclaims.unique hother
  have hread := Claims.ofDocument?_document claims
  rw [hdocument, Claims.ofDocument?_document] at hread
  exact (Option.some.inj hread).symm

namespace TokenIssuer

variable {issuer : TokenIssuer} {audience scope : String} {now : Instant}

@[simp] theorem audience_claims : (issuer.claims audience scope now).audience = audience := rfl

@[simp] theorem scope_claims : (issuer.claims audience scope now).scope = scope := rfl

/-- The text that is issued is the text of a token that was signed. -/
theorem exists_sign_of_issueAt {text : String} (h : issuer.issueAt audience scope now = .ok text) :
    ∃ token, CompactToken.sign issuer.key header.render
      (issuer.claims audience scope now).document.render = .ok token ∧ token.toText = text := by
  unfold issueAt issueToken at h
  cases hsign : CompactToken.sign issuer.key header.render
      (issuer.claims audience scope now).document.render with
  | error fault =>
    rw [hsign] at h
    cases h
  | ok token =>
    rw [hsign] at h
    cases h
    exact ⟨token, rfl, rfl⟩

/-- **An issued token says the claims of its issuer.** -/
theorem claims_of_issueAt {text : String} (h : issuer.issueAt audience scope now = .ok text) :
    (issuer.claims audience scope now).SaidBy text := by
  obtain ⟨token, hsign, rfl⟩ := exists_sign_of_issueAt h
  obtain ⟨htoken, hpayload⟩ := CompactToken.of_sign hsign
  exact ⟨token, _, htoken, hpayload, Json.saidBy_render _⟩

/-- A key with which nothing is wrong signs every token. -/
theorem exists_issueAt (audience scope : String) (now : Instant) (h : issuer.key.fault? = none) :
    ∃ text, issuer.issueAt audience scope now = .ok text := by
  unfold issueAt issueToken CompactToken.sign Rsa.PrivateKey.sign
  rw [h]
  exact ⟨_, rfl⟩

/-- A key with a fault signs none. -/
theorem exists_error_of_fault (audience scope : String) (now : Instant)
    (h : issuer.key.fault? ≠ none) : ∃ error, issuer.issueAt audience scope now = .error error := by
  obtain ⟨fault, hfault⟩ := Option.ne_none_iff_exists'.mp h
  unfold issueAt issueToken CompactToken.sign Rsa.PrivateKey.sign
  rw [hfault]
  exact ⟨_, rfl⟩

end TokenIssuer

end CodeGrant
