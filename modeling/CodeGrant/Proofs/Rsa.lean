import CodeGrant.Proofs.Bytes
import CodeGrant.Rsa
import Mathlib.FieldTheory.Finite.Basic
import Mathlib.Tactic.SplitIfs

/-! # A signature is accepted under its own key

`powMod` computes the power (`powMod_eq`), the encoded message is a number below the
modulus (`toNat_encodeMessage_lt`), and the two exponents of a key undo each other
modulo its two primes (`pow_modEq_of_primes`).  So whatever a key signs is accepted
under its public half (`PrivateKey.verify_of_sign`).

`PrivateKey.fault?` checks neither that the primes of a key are primes nor that its
exponents undo each other; `PrivateKey.IsMadeOf` says both. -/

namespace CodeGrant.Rsa

/-! ## Powers -/

/-- The accumulator stands for the low bits that have been used up, the base for the power of two
that comes next. -/
theorem powModFrom_eq {modulus bits base exponent acc : Nat} (hexponent : exponent < 2 ^ bits)
    (hacc : acc % modulus = acc) :
    powModFrom modulus bits base exponent acc = acc * base ^ exponent % modulus := by
  induction bits generalizing base exponent acc with
  | zero =>
    obtain rfl : exponent = 0 := by simpa using hexponent
    simp [powModFrom, hacc]
  | succ bits ih =>
    have hhalf : exponent / 2 < 2 ^ bits := by
      rw [pow_succ] at hexponent
      omega
    have hsquare (n : Nat) : (base * base % modulus) ^ n ≡ base ^ (2 * n) [MOD modulus] := by
      rw [pow_mul, sq]
      exact (Nat.mod_modEq _ _).pow n
    rw [powModFrom]
    by_cases hodd : exponent % 2 = 1
    · rw [if_pos hodd, ih hhalf (Nat.mod_mod _ _)]
      calc acc * base % modulus * (base * base % modulus) ^ (exponent / 2)
          ≡ acc * base * base ^ (2 * (exponent / 2)) [MOD modulus] :=
            (Nat.mod_modEq _ _).mul (hsquare _)
        _ = acc * base ^ (2 * (exponent / 2) + 1) := by ring
        _ = acc * base ^ exponent := by rw [show 2 * (exponent / 2) + 1 = exponent by omega]
    · rw [if_neg hodd, ih hhalf hacc]
      calc acc * (base * base % modulus) ^ (exponent / 2)
          ≡ acc * base ^ (2 * (exponent / 2)) [MOD modulus] := (hsquare _).mul_left acc
        _ = acc * base ^ exponent := by rw [show 2 * (exponent / 2) = exponent by omega]

/-- **`powMod` is the power.** -/
theorem powMod_eq (base exponent modulus : Nat) :
    powMod base exponent modulus = base ^ exponent % modulus := by
  rw [powMod, powModFrom_eq (Bytes.lt_two_pow_bitLength exponent) (Nat.mod_mod _ _)]
  have h := (Nat.mod_modEq 1 modulus).mul ((Nat.mod_modEq base modulus).pow exponent)
  rwa [one_mul] at h

/-- Raising twice is raising to the product. -/
theorem powMod_powMod (base exponent other modulus : Nat) :
    powMod (powMod base exponent modulus) other modulus =
      base ^ (other * exponent) % modulus := by
  rw [powMod_eq, powMod_eq, ← Nat.pow_mod, ← pow_mul, mul_comm]

/-! ## Exponents that undo each other -/

/-- An exponent that leaves the rest one by `p - 1` changes nothing modulo the prime `p`. -/
theorem pow_modEq_of_prime {p exponent : Nat} (hp : p.Prime) (hpos : 0 < exponent)
    (h : exponent ≡ 1 [MOD p - 1]) (n : Nat) : n ^ exponent ≡ n [MOD p] := by
  have := Fact.mk hp
  obtain ⟨t, ht⟩ := (Nat.modEq_iff_dvd' hpos).mp h.symm
  obtain rfl : exponent = (p - 1) * t + 1 := by omega
  rw [← ZMod.natCast_eq_natCast_iff, Nat.cast_pow]
  by_cases hn : (n : ZMod p) = 0
  · rw [hn, zero_pow (Nat.succ_ne_zero _)]
  · rw [pow_succ, pow_mul, ZMod.pow_card_sub_one_eq_one hn, one_pow, one_mul]

/-- The same modulo the product of two primes. -/
theorem pow_modEq_of_primes {p q exponent : Nat} (hp : p.Prime) (hq : q.Prime) (hne : p ≠ q)
    (hpos : 0 < exponent) (h : exponent ≡ 1 [MOD Nat.lcm (p - 1) (q - 1)]) (n : Nat) :
    n ^ exponent ≡ n [MOD p * q] := by
  have hleft : n ^ exponent ≡ n [MOD p] :=
    pow_modEq_of_prime hp hpos (h.of_dvd (Nat.dvd_lcm_left _ _)) n
  have hright : n ^ exponent ≡ n [MOD q] :=
    pow_modEq_of_prime hq hpos (h.of_dvd (Nat.dvd_lcm_right _ _)) n
  exact (Nat.modEq_and_modEq_iff_modEq_mul ((Nat.coprime_primes hp hq).mpr hne)).mp
    ⟨hleft, hright⟩

/-- Whether a key is made of two distinct primes, so that its exponents undo each other. -/
structure PrivateKey.IsMadeOf (key : PrivateKey) (p q : Nat) : Prop where
  prime_left : p.Prime
  prime_right : q.Prime
  distinct : p ≠ q
  modulus : key.modulus = p * q
  inverse : key.exponent * key.privateExponent ≡ 1 [MOD Nat.lcm (p - 1) (q - 1)]

/-! ## Encoded messages -/

/-- The shortest encoding there is, in bytes. -/
def leastEncoding : Nat := 54

variable {length : Nat} (message : Bytes)

/-- An encoding has the length that was asked for. -/
theorem length_encodeMessage (h : leastEncoding ≤ length) :
    (encodeMessage length message).length = length := by
  have htail : (hashName ++ Sha256.digest message).length = 51 := by simp [hashName]
  rw [leastEncoding] at h
  simp only [encodeMessage, htail, List.length_cons, List.length_append, List.length_replicate]
  omega

/-- **An encoding has fifteen zero bits in front of everything else.** -/
theorem toNat_encodeMessage_lt (h : leastEncoding ≤ length) :
    Bytes.toNat (encodeMessage length message) < 2 ^ (8 * length - 15) := by
  obtain ⟨rest, hrest⟩ : ∃ rest, encodeMessage length message = 0x00 :: 0x01 :: rest := ⟨_, rfl⟩
  have hlength : rest.length + 2 = length := by
    have := length_encodeMessage message h
    rwa [hrest] at this
  have hlt := Bytes.toNat_lt rest
  calc Bytes.toNat (encodeMessage length message)
      = 256 ^ rest.length + Bytes.toNat rest := by
        rw [hrest, Bytes.toNat_cons, Bytes.toNat_cons]
        simp
    _ < 2 * 256 ^ rest.length := by omega
    _ = 2 ^ (8 * rest.length + 1) := by rw [pow_succ', pow_mul]; rfl
    _ = 2 ^ (8 * length - 15) := by rw [show 8 * rest.length + 1 = 8 * length - 15 by omega]

/-! ## Keys with which nothing is wrong -/

/-- What the checks of a public key leave. -/
theorem PublicKey.bounds_of_fault? {key : PublicKey} (h : key.fault? = none) :
    leastModulusBits ≤ Bytes.bitLength key.modulus ∧ leastExponent ≤ key.exponent := by
  unfold PublicKey.fault? at h
  split_ifs at h with hshort hlong heven hexponentLong hexponentSmall
  exact ⟨Nat.le_of_not_lt hshort, Nat.le_of_not_lt hexponentSmall⟩

/-- A private key with which nothing is wrong has a public half with which nothing is. -/
theorem PrivateKey.fault?_toPublicKey {key : PrivateKey} (h : key.fault? = none) :
    key.toPublicKey.fault? = none := by
  unfold PrivateKey.fault? at h
  cases hpublic : key.toPublicKey.fault? with
  | none => rfl
  | some fault =>
    rw [hpublic] at h
    cases h

/-- The private exponent of such a key is not zero. -/
theorem PrivateKey.privateExponent_pos {key : PrivateKey} (h : key.fault? = none) :
    0 < key.privateExponent := by
  have hpublic := fault?_toPublicKey h
  unfold PrivateKey.fault? at h
  rw [hpublic] at h
  dsimp only at h
  split at h
  · split_ifs at h with hlengths hproduct hshort hlarge heven
    omega
  · cases h

/-! ## Signatures -/

section

variable {key : PrivateKey} {p q : Nat} {message signature : Bytes}

/-- A modulus that signs has room for an encoding. -/
theorem PublicKey.leastEncoding_le {key : PublicKey} (h : key.fault? = none) :
    leastEncoding ≤ Bytes.byteLength key.modulus := by
  have hbits := (PublicKey.bounds_of_fault? h).1
  unfold Bytes.byteLength leastEncoding
  rw [leastModulusBits] at hbits
  omega

/-- **An encoding is a number below the modulus it is made for.** -/
theorem PublicKey.toNat_encodeMessage_lt {key : PublicKey} (message : Bytes)
    (h : key.fault? = none) :
    Bytes.toNat (encodeMessage (Bytes.byteLength key.modulus) message) < key.modulus := by
  have hbits := (PublicKey.bounds_of_fault? h).1
  rw [leastModulusBits] at hbits
  calc Bytes.toNat (encodeMessage (Bytes.byteLength key.modulus) message)
      < 2 ^ (8 * Bytes.byteLength key.modulus - 15) :=
        Rsa.toNat_encodeMessage_lt message (PublicKey.leastEncoding_le h)
    _ ≤ key.modulus := Bytes.two_pow_le_of_lt_bitLength (by unfold Bytes.byteLength; omega)

/-- A signature is the power that it writes. -/
theorem PrivateKey.toNat_signature (h : 0 < key.modulus) :
    Bytes.toNat (key.signature message) =
      powMod (Bytes.toNat (encodeMessage (Bytes.byteLength key.modulus) message))
        key.privateExponent key.modulus := by
  rw [signature, Bytes.toNat_ofNatWidth_of_lt]
  rw [powMod_eq]
  exact (Nat.mod_lt _ h).trans (Bytes.lt_pow_byteLength _)

/-- The public exponent takes a signature back to the encoded message, so a signer that raises back
what it has computed never finds anything wrong. -/
theorem PrivateKey.powMod_signature (hkey : key.IsMadeOf p q) (h : key.fault? = none) :
    powMod (Bytes.toNat (key.signature message)) key.exponent key.modulus =
      Bytes.toNat (encodeMessage (Bytes.byteLength key.modulus) message) := by
  have hpublic := fault?_toPublicKey h
  have hencoded := PublicKey.toNat_encodeMessage_lt message hpublic
  have hpos : 0 < key.exponent * key.privateExponent := by
    have hexponent := (PublicKey.bounds_of_fault? hpublic).2
    rw [leastExponent] at hexponent
    exact Nat.mul_pos (by omega) (privateExponent_pos h)
  have hundo := pow_modEq_of_primes hkey.prime_left hkey.prime_right hkey.distinct hpos hkey.inverse
    (Bytes.toNat (encodeMessage (Bytes.byteLength key.modulus) message))
  rw [← hkey.modulus] at hundo
  rw [toNat_signature (by omega), powMod_powMod, hundo, Nat.mod_eq_of_lt hencoded]

/-- **What a key signs is accepted under its public half.** -/
theorem PrivateKey.verify_of_sign (hkey : key.IsMadeOf p q)
    (h : key.sign message = .ok signature) :
    key.toPublicKey.verify message signature = true := by
  obtain ⟨hfault, rfl⟩ := (key.sign_eq_ok_iff message signature).mp h
  have hpublic := fault?_toPublicKey hfault
  have hencoded := PublicKey.toNat_encodeMessage_lt message hpublic
  have hbelow : Bytes.toNat (key.signature message) < key.modulus := by
    rw [toNat_signature (by omega), powMod_eq]
    exact Nat.mod_lt _ (by omega)
  have hlength := length_encodeMessage message (PublicKey.leastEncoding_le hpublic)
  have hback := Bytes.ofNatWidth_toNat (encodeMessage (Bytes.byteLength key.modulus) message)
  rw [hlength] at hback
  simp only [PublicKey.verify, length_signature, powMod_signature hkey hfault, hback,
    beq_self_eq_true, hbelow, decide_true, Bool.and_self]

end

end CodeGrant.Rsa
