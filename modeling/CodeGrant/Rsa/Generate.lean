import CodeGrant.Conditions
import CodeGrant.Rsa

/-! # Making keys

A key is made from a seed.  Candidates for its primes are expanded from the seed
one after the other; the first two that differ, suit the public exponent and pass
the strong test for some fixed bases are taken.  The two highest bits of a
candidate are set, so that the modulus has its full length. -/

namespace CodeGrant.Rsa

/-- The public exponent of every key that is made. -/
def publicExponent : Nat := 65537

/-- The length of the modulus of a signing key, in bits. -/
def signingKeyBits : Nat := 2048

/-- Primes that rule out most candidates at once; they are the bases of the strong test too. -/
def smallPrimes : List Nat :=
  [3, 5, 7, 11, 13, 17, 19, 23, 29, 31, 37, 41, 43, 47, 53, 59, 61, 67, 71, 73, 79, 83, 89, 97, 101,
   103, 107, 109, 113, 127, 131, 137, 139, 149, 151, 157, 163, 167, 173, 179, 181, 191, 193, 197]

/-- How often two divides a number, and the odd rest, in at most `steps` divisions. -/
def splitTwos : Nat → Nat → Nat × Nat
  | 0, n => (0, n)
  | steps + 1, n =>
    if n % 2 = 0 then
      let (twos, odd) := splitTwos steps (n / 2)
      (twos + 1, odd)
    else (0, n)

/-- Whether one of the first squares of `x`, at most `steps` of them, is `n - 1`. -/
def reachesMinusOne (n : Nat) : Nat → Nat → Bool
  | 0, _ => false
  | steps + 1, x => x == n - 1 || reachesMinusOne n steps (x * x % n)

/-- The strong test of an odd number to one base. -/
def passesStrongTest (n base : Nat) : Bool :=
  let (twos, odd) := splitTwos (Bytes.bitLength n) (n - 1)
  let x := powMod base odd n
  x == 1 || reachesMinusOne n twos x

/-- Whether a number above the small primes looks prime. -/
def looksPrime (n : Nat) : Bool :=
  n % 2 == 1 && smallPrimes.all (fun p => n % p != 0)
    && (smallPrimes.take 24).all (passesStrongTest n)

/-- The candidate of a number, with `bits` bits; `bits` is a multiple of eight. -/
def candidate (seed : Bytes) (bits index : Nat) : Nat :=
  let n := Bytes.toNat (expandSeed (seed ++ Bytes.ofNatWidth 8 index) (bits / 8))
  n % (1 <<< (bits - 2)) / 2 * 2 + 1 + 1 <<< (bits - 1) + 1 <<< (bits - 2)

/-- The first usable prime other than `taken` among `count` candidates, and the number behind
its own. -/
def findPrime (seed : Bytes) (bits taken : Nat) : Nat → Nat → Option (Nat × Nat)
  | 0, _ => none
  | count + 1, index =>
    let n := candidate seed bits index
    if n != taken && (n - 1) % publicExponent != 0 && looksPrime n then some (n, index + 1)
    else findPrime seed bits taken count (index + 1)

/-- The coefficient of `b` when the greatest common divisor of `a` and `b` is written as a sum of
multiples of the two; `s` and `t` are the coefficients that led to `a` and `b`. -/
def bezout (a b : Nat) (s t : Int) : Int :=
  if _ : b = 0 then s else bezout b (a % b) t (s - (a / b : Nat) * t)
termination_by b
decreasing_by exact Nat.mod_lt a (Nat.pos_of_ne_zero ‹_›)

/-- The number below `modulus` whose product with `n` leaves the rest one, if the two have no
common divisor. -/
def inverseMod (n modulus : Nat) : Nat := ((bezout modulus n 0 1) % (modulus : Int)).toNat

/-- The key of some primes and a public exponent. -/
def PrivateKey.ofPrimes (primes : List Nat) (exponent : Nat) : PrivateKey where
  modulus := primes.foldl (· * ·) 1
  exponent := exponent
  privateExponent := inverseMod exponent (primes.foldl (fun n p => n * (p - 1)) 1)
  primes := primes

/-- How many candidates are tried for a prime. -/
def candidateLimit : Nat := 100000

/-- A key with a modulus of `bits` bits that follows from a seed. -/
def generate (seed : Bytes) (bits : Nat) : Option PrivateKey := do
  let (p, next) ← findPrime seed (bits / 2) 0 candidateLimit 0
  let (q, _) ← findPrime seed (bits / 2) p candidateLimit next
  some (.ofPrimes [p, q] publicExponent)

example : inverseMod 3 10 = 7 ∧ splitTwos 9 48 = (4, 3) := by decide +kernel
example : passesStrongTest 561 5 = false ∧ passesStrongTest 563 5 = true := by decide +kernel

end CodeGrant.Rsa
