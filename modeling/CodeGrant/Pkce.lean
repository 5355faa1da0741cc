import CodeGrant.Base64Url
import CodeGrant.Sha256
import CodeGrant.Text.Utf8

/-! # Proof keys

A client that asks for a code shows the challenge of a secret verifier, and shows
the verifier itself when it redeems the code (RFC 7636, method S256). -/

namespace CodeGrant.Pkce

/-- The only method of making a challenge. -/
def method : String := "S256"

/-- The challenge of a verifier: its SHA-256 digest as base64url. -/
def challenge (verifier : String) : String := Base64Url.encode (Sha256.digest (Utf8.encode verifier))

/-- Whether a challenge is the one of a verifier. -/
def verify (verifier text : String) : Bool := challenge verifier == text

@[simp] theorem verify_challenge (verifier : String) :
    verify verifier (challenge verifier) = true := by simp [verify]

/-- **Each verifier has one challenge only.** -/
theorem verify_iff (verifier text : String) :
    verify verifier text = true ↔ challenge verifier = text := by simp [verify]

end CodeGrant.Pkce
