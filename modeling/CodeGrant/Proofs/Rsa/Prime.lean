import CodeGrant.Proofs.Rsa
import Mathlib.NumberTheory.LucasPrimality
import Mathlib.Tactic.NormNum.Prime

/-! # A key whose primes are proved

Two random primes of a thousand bits cannot be told to be primes in a few steps, but
primes `p` for which the primes that divide `p - 1` are known can: by Lucas' test,
which takes one power for each of these and one more (`prime_succ_mul_two_pow`).
`provenKey` is made of two primes of this kind (`isMadeOf_provenKey`). -/

namespace CodeGrant.Rsa

/-- Whether a power leaves the rest one is seen from `powMod`. -/
theorem natCast_pow_eq_one_iff {modulus : Nat} (h : 1 < modulus) (base exponent : Nat) :
    (base : ZMod modulus) ^ exponent = 1 ↔ powMod base exponent modulus = 1 := by
  rw [powMod_eq, ← Nat.cast_pow, ← Nat.cast_one, ZMod.natCast_eq_natCast_iff',
    Nat.mod_eq_of_lt h]

/-- **Lucas' test** of a number that is one above a prime times a power of two. -/
theorem prime_succ_mul_two_pow (base : Nat) {odd twos : Nat} (hodd : odd.Prime)
    (hone : powMod base (odd * 2 ^ twos) (odd * 2 ^ twos + 1) = 1)
    (htwo : powMod base (odd * 2 ^ twos / 2) (odd * 2 ^ twos + 1) ≠ 1)
    (hrest : powMod base (odd * 2 ^ twos / odd) (odd * 2 ^ twos + 1) ≠ 1) :
    (odd * 2 ^ twos + 1).Prime := by
  have hmodulus : 1 < odd * 2 ^ twos + 1 :=
    Nat.lt_add_of_pos_left (Nat.mul_pos hodd.pos (Nat.two_pow_pos twos))
  refine lucas_primality _ (base : ZMod (odd * 2 ^ twos + 1)) ?_ fun q hq hdvd => ?_
  · rw [Nat.add_sub_cancel, natCast_pow_eq_one_iff hmodulus]
    exact hone
  · rw [Nat.add_sub_cancel] at hdvd ⊢
    rw [ne_eq, natCast_pow_eq_one_iff hmodulus]
    rcases hq.dvd_mul.mp hdvd with hleft | hright
    · obtain rfl := (Nat.prime_dvd_prime_iff_eq hq hodd).mp hleft
      exact hrest
    · obtain rfl := (Nat.prime_dvd_prime_iff_eq hq Nat.prime_two).mp (hq.dvd_of_dvd_pow hright)
      exact htwo

/-- A key of 2048 bits.  The least common multiple of its primes, each less one, is
`47161 * 52237 * 2 ^ 1008`; its product with 30381 is one short of a multiple of 65537. -/
def provenKey : PrivateKey where
  modulus := (47161 * 2 ^ 1008 + 1) * (52237 * 2 ^ 1008 + 1)
  exponent := 65537
  privateExponent := (30381 * (47161 * 52237 * 2 ^ 1008) + 1) / 65537
  primes := [47161 * 2 ^ 1008 + 1, 52237 * 2 ^ 1008 + 1]

/-- The key signs. -/
theorem fault?_provenKey : provenKey.fault? = none := by decide +kernel

/-- The key is made of its two primes. -/
theorem isMadeOf_provenKey :
    provenKey.IsMadeOf (47161 * 2 ^ 1008 + 1) (52237 * 2 ^ 1008 + 1) where
  prime_left := prime_succ_mul_two_pow 3 (by norm_num) (by decide +kernel) (by decide +kernel)
    (by decide +kernel)
  prime_right := prime_succ_mul_two_pow 3 (by norm_num) (by decide +kernel) (by decide +kernel)
    (by decide +kernel)
  distinct := by decide +kernel
  modulus := rfl
  inverse := by decide +kernel

end CodeGrant.Rsa
