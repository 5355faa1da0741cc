import CodeGrant.Proofs.Base64Url.Canonical
import CodeGrant.Proofs.Bytes
import CodeGrant.Proofs.Token.Published

/-! # The numbers of a published key

A number is published in one way only: base64url without padding, of bytes without a zero byte in
front (`Base64Url.WritesNumber`).  What is published for a positive number is the one text that writes
it (`Base64Url.writesNumber_iff`), so the key that is published tells the public half of the signing
key, and is told by it (`TokenIssuer.publicJwk_canonical`). -/

namespace CodeGrant

namespace Base64Url

/-- A text writes a number: it is read as bytes that write the number big-endian, without a zero byte
in front, and holds characters of the alphabet only, so no padding. -/
structure WritesNumber (text : String) (n : Nat) : Prop where
  alphabet : ∀ c ∈ text.toList, IsAlphabetic c
  decodes : ∃ bytes, decode? text = some bytes ∧ bytes.head? ≠ some 0 ∧ Bytes.toNat bytes = n

/-- **A positive number is written by one text, that of its bytes.** -/
theorem writesNumber_iff {text : String} {n : Nat} (h : 0 < n) :
    WritesNumber text n ↔ text = encode (Bytes.ofNat n) := by
  constructor
  · rintro ⟨-, bytes, hbytes, hhead, hvalue⟩
    have hcanonical : bytes = Bytes.ofNat n :=
      Bytes.eq_of_toNat_eq hhead (Bytes.head?_ofNat_ne h) (by rw [hvalue, Bytes.toNat_ofNat])
    rw [← hcanonical]
    exact (decode?_eq_some_iff.mp hbytes).symm
  · rintro rfl
    exact ⟨fun _ => isAlphabetic_of_mem_encode,
      _, decode?_encode _, Bytes.head?_ofNat_ne h, Bytes.toNat_ofNat n⟩

end Base64Url

namespace TokenIssuer

/-- **The published key is the canonical writing of the public half of the key.**  Its modulus and its
exponent are the only texts that write those of the key, and no issuer with another public key
publishes the same two. -/
theorem publicJwk_canonical (issuer : TokenIssuer) (hmodulus : 0 < issuer.key.modulus)
    (hexponent : 0 < issuer.key.exponent) :
    (∀ text, Base64Url.WritesNumber text issuer.key.modulus ↔ text = issuer.publicJwk.modulus) ∧
      (∀ text, Base64Url.WritesNumber text issuer.key.exponent ↔
        text = issuer.publicJwk.exponent) ∧
      ∀ other : TokenIssuer, other.publicJwk.modulus = issuer.publicJwk.modulus →
        other.publicJwk.exponent = issuer.publicJwk.exponent →
          other.key.toPublicKey = issuer.key.toPublicKey := by
  refine ⟨fun text => Base64Url.writesNumber_iff hmodulus,
    fun text => Base64Url.writesNumber_iff hexponent, fun other hsame hsame' => ?_⟩
  have hread : other.publicJwk.publicKey? = issuer.publicJwk.publicKey? := by
    rw [Jwk.publicKey?, Jwk.publicKey?, hsame, hsame']
  rw [publicJwk, publicJwk, Jwk.publicKey?_ofPublicKey, Jwk.publicKey?_ofPublicKey] at hread
  exact Option.some.inj hread

/-- A modulus whose highest bit is set is written without a byte for its sign. -/
theorem publicJwk_canonical_of_high_bit :
    let issuer : TokenIssuer := ⟨"http://a", ⟨⟨0x8001, 65537⟩, 1, []⟩⟩
    0 < issuer.key.modulus ∧ 0 < issuer.key.exponent ∧ issuer.publicJwk.modulus = "gAE" ∧
      Base64Url.WritesNumber "gAE" 0x8001 ∧ Base64Url.WritesNumber "AQAB" 65537 ∧
      ¬ Base64Url.WritesNumber "AIAB" 0x8001 := by
  intro issuer
  obtain ⟨hmodulus, hexponent, -⟩ := issuer.publicJwk_canonical (by decide) (by decide)
  refine ⟨by decide, by decide, by decide, (hmodulus "gAE").mpr (by decide),
    (hexponent "AQAB").mpr (by decide), fun h => ?_⟩
  exact absurd ((hmodulus "AIAB").mp h) (by decide)

end TokenIssuer

end CodeGrant
