import CodeGrant.Pkce
import CodeGrant.Proofs.Base64Url.Canonical

/-! # The shape of a challenge

A digest has thirty-two bytes, so its challenge has forty-three characters, and two bits of the last
one are left over (`Pkce.IsShaped`).  A text is the challenge of a verifier exactly if it has that
shape and decodes to the digest of the verifier (`Pkce.verify_iff_isShaped`), so the challenge of one
verifier is good for those with the same digest and for no others (`Pkce.verify_challenge_iff`). -/

namespace CodeGrant

namespace Base64Url

theorem forall_mem_bits_two_iff : ∀ n < 4, (∀ b ∈ bits 2 n, b = false) ↔ n = 0 := by decide

/-- Two bits that are left over behind the last byte are the low bits of the last character. -/
theorem unused_iff {chars : List Char} {c : Char} {v : Nat} {bytes : Bytes} {unused : List Bool}
    (hc : value? c = some v) (hlength : unused.length = 2)
    (h : charBits (chars ++ [c]) = byteBits bytes ++ unused) :
    (∀ b ∈ unused, b = false) ↔ v % 4 = 0 := by
  have hsplit : bits 6 v = bits 4 (v / 4) ++ bits 2 (v % 4) := bits_add 4 2 _ _ (by omega) (by omega)
  have hlast : charBits [c] = bits 6 v := (charBits_cons hc []).trans (List.append_nil _)
  have happend : charBits (chars ++ [c]) = charBits chars ++ charBits [c] := List.flatMap_append
  rw [happend, hlast, hsplit, ← List.append_assoc] at h
  have hunused := (List.append_inj' h (by rw [length_bits, hlength])).2
  rw [← hunused]
  exact forall_mem_bits_two_iff _ (Nat.mod_lt _ (by decide))

end Base64Url

namespace Pkce

open Base64Url (IsAlphabetic value? Writes DecodesTo)

/-- The shape of a challenge: forty-three characters of the alphabet, and of the last one the two low
bits, which are not used, are zero. -/
structure IsShaped (text : String) : Prop where
  length : text.length = 43
  alphabet : ∀ c ∈ text.toList, IsAlphabetic c
  unused : ∃ c v, text.toList.getLast? = some c ∧ value? c = some v ∧ v % 4 = 0

/-- **What is written for thirty-two bytes has the shape of a challenge**, and of that shape nothing
else decodes to them. -/
theorem writes_iff_isShaped {text : String} {bytes : Bytes} (hbytes : bytes.length = 32) :
    Writes text bytes ↔ IsShaped text ∧ DecodesTo text bytes := by
  constructor
  · rintro ⟨halphabet, unused, hdecodes, hfew, hzero⟩
    have htotal := Base64Url.length_of_charBits_eq halphabet hdecodes
    have hne : text.toList ≠ [] := by
      intro hnil
      rw [hnil, List.length_nil] at htotal
      omega
    have hlast := List.getLast?_eq_some_getLast hne
    obtain ⟨v, hv⟩ := Option.isSome_iff_exists.mp
      (Base64Url.value?_isSome_iff.mpr (halphabet _ (List.getLast_mem hne)))
    obtain ⟨chars, hchars⟩ := List.getLast?_eq_some_iff.mp hlast
    refine ⟨⟨?_, halphabet, _, v, hlast, hv, ?_⟩, unused, hdecodes, hfew⟩
    · rw [← String.length_toList]
      omega
    · exact (Base64Url.unused_iff hv (by omega) (hchars ▸ hdecodes)).mp hzero
  · rintro ⟨⟨hlength, halphabet, c, v, hlast, hv, hlow⟩, unused, hdecodes, hfew⟩
    have htotal := Base64Url.length_of_charBits_eq halphabet hdecodes
    rw [String.length_toList, hlength] at htotal
    obtain ⟨chars, hchars⟩ := List.getLast?_eq_some_iff.mp hlast
    rw [hchars] at hdecodes
    have hzero := (Base64Url.unused_iff hv (by omega) hdecodes).mpr hlow
    rw [← hchars] at hdecodes
    exact ⟨halphabet, unused, hdecodes, hfew, hzero⟩

/-- **A text is good for a verifier exactly if it has the shape of a challenge and decodes to the
digest of the verifier.** -/
theorem verify_iff_isShaped (verifier text : String) : verify verifier text = true ↔
    IsShaped text ∧ DecodesTo text (Sha256.digest (Utf8.encode verifier)) := by
  rw [verify_iff, challenge, ← Base64Url.writes_iff,
    writes_iff_isShaped (Sha256.length_digest _)]

/-- The challenge of a verifier has the shape of a challenge. -/
theorem isShaped_challenge (verifier : String) : IsShaped (challenge verifier) :=
  ((verify_iff_isShaped verifier _).mp (verify_challenge verifier)).1

/-- **The challenge of a verifier is good for those with the same digest.** -/
theorem verify_challenge_iff (verifier other : String) : verify verifier (challenge other) = true ↔
    Sha256.digest (Utf8.encode verifier) = Sha256.digest (Utf8.encode other) := by
  rw [verify_iff]
  constructor
  · intro h
    exact Base64Url.encode_injective h
  · intro h
    rw [challenge, h, challenge]

end Pkce

end CodeGrant
