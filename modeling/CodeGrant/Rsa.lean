import CodeGrant.Sha256

/-! # RSA signatures

Keys and RSASSA-PKCS1-v1_5 signatures over SHA-256 (RFC 8017, sections 8.2 and
9.2).  A message is encoded as the bytes `00 01 FF … FF 00`, the name of the
hash and the digest, as long as the modulus; the signature is that number raised
to the private exponent.  `PublicKey.verify` raises it back and compares.

A key signs only if it passes the checks of `PrivateKey.fault?`: the modulus and
the public exponent lie within bounds, and the two primes have half the length
of the modulus each and multiply to it. -/

namespace CodeGrant.Rsa

/-- `base ^ exponent % modulus` times `acc`, by squaring, over at most `bits` bits. -/
def powModFrom (modulus : Nat) : Nat → Nat → Nat → Nat → Nat
  | 0, _, _, acc => acc
  | bits + 1, base, exponent, acc =>
    powModFrom modulus bits (base * base % modulus) (exponent / 2)
      (if exponent % 2 = 1 then acc * base % modulus else acc)

/-- `base ^ exponent % modulus`. -/
def powMod (base exponent modulus : Nat) : Nat :=
  powModFrom modulus (Bytes.bitLength exponent) (base % modulus) exponent (1 % modulus)

/-- A public key. -/
structure PublicKey where
  modulus : Nat
  exponent : Nat
  deriving DecidableEq, Repr

/-- A private key: the public part, the private exponent and the primes of the modulus. -/
structure PrivateKey extends PublicKey where
  privateExponent : Nat
  primes : List Nat
  deriving DecidableEq, Repr

/-- Why a key cannot sign. -/
inductive KeyFault where
  | tooSmall
  | tooLarge
  | invalidComponent
  | inconsistentComponents
  deriving DecidableEq, Repr

/-- The name of a fault in error texts. -/
def KeyFault.name : KeyFault → String
  | tooSmall => "TooSmall"
  | tooLarge => "TooLarge"
  | invalidComponent => "InvalidComponent"
  | inconsistentComponents => "InconsistentComponents"

/-- The shortest modulus that signs, in bits. -/
def leastModulusBits : Nat := 2048

/-- The longest modulus that signs, in bits. -/
def greatestModulusBits : Nat := 4096

/-- The least public exponent that signs. -/
def leastExponent : Nat := 65537

/-- The longest public exponent that signs, in bits. -/
def greatestExponentBits : Nat := 33

/-- What is wrong with a public key, if anything: first the length of the modulus, then the
exponent. -/
def PublicKey.fault? (key : PublicKey) : Option KeyFault :=
  if Bytes.bitLength key.modulus < leastModulusBits then some .tooSmall
  else if greatestModulusBits < Bytes.bitLength key.modulus then some .tooLarge
  else if key.modulus % 2 = 0 then some .invalidComponent
  else if greatestExponentBits < Bytes.bitLength key.exponent then some .tooLarge
  else if key.exponent < leastExponent then some .tooSmall
  else if key.exponent % 2 = 0 then some .invalidComponent
  else none

/-- What is wrong with a private key, if anything: the public part first, then the lengths of the
two primes, their product, and the private exponent. -/
def PrivateKey.fault? (key : PrivateKey) : Option KeyFault :=
  match key.toPublicKey.fault? with
  | some fault => some fault
  | none =>
    match key.primes with
    | [p, q] =>
      let half := (Bytes.bitLength key.modulus + 1) / 2
      if Bytes.bitLength p ≠ half ∨ Bytes.bitLength q ≠ half then some .inconsistentComponents
      else if p * q ≠ key.modulus then some .inconsistentComponents
      else if Bytes.bitLength key.privateExponent ≤ half then some .inconsistentComponents
      else if key.modulus ≤ key.privateExponent then some .inconsistentComponents
      else if key.privateExponent % 2 = 0 then some .invalidComponent
      else none
    | _ => some .inconsistentComponents

/-- The name of SHA-256 as it stands before a digest. -/
def hashName : Bytes :=
  [0x30, 0x31, 0x30, 0x0D, 0x06, 0x09, 0x60, 0x86, 0x48, 0x01, 0x65, 0x03, 0x04, 0x02, 0x01, 0x05,
   0x00, 0x04, 0x20]

/-- The message encoded in `length` bytes. -/
def encodeMessage (length : Nat) (message : Bytes) : Bytes :=
  let tail := hashName ++ Sha256.digest message
  0x00 :: 0x01 :: (List.replicate (length - tail.length - 3) 0xFF ++ 0x00 :: tail)

/-- The encoded message raised to the private exponent, as long as the modulus. -/
def PrivateKey.signature (key : PrivateKey) (message : Bytes) : Bytes :=
  let length := Bytes.byteLength key.modulus
  Bytes.ofNatWidth length
    (powMod (Bytes.toNat (encodeMessage length message)) key.privateExponent key.modulus)

/-- Signs a message, unless something is wrong with the key.  A signer may raise back what it has
computed before it hands it out (`SigningFault.failed` if that goes wrong); here it does not, since the
signature of a key that is made of two primes, as every RSA key is, always comes back to the encoded
message (`PrivateKey.powMod_signature`). -/
def PrivateKey.sign (key : PrivateKey) (message : Bytes) : Except KeyFault Bytes :=
  match key.fault? with
  | some fault => .error fault
  | none => .ok (key.signature message)

/-- Whether a signature is one of the message: it is as long as the modulus, names a number below
it, and raised to the public exponent gives the encoded message. -/
def PublicKey.verify (key : PublicKey) (message signature : Bytes) : Bool :=
  let length := Bytes.byteLength key.modulus
  let s := Bytes.toNat signature
  signature.length == length && s < key.modulus
    && Bytes.ofNatWidth length (powMod s key.exponent key.modulus) == encodeMessage length message

@[simp] theorem PrivateKey.length_signature (key : PrivateKey) (message : Bytes) :
    (key.signature message).length = Bytes.byteLength key.modulus := by
  simp [PrivateKey.signature]

/-- A key signs exactly when nothing is wrong with it. -/
theorem PrivateKey.sign_eq_ok_iff (key : PrivateKey) (message signature : Bytes) :
    key.sign message = .ok signature ↔
      key.fault? = none ∧ key.signature message = signature := by
  unfold PrivateKey.sign
  cases key.fault? <;> simp

end CodeGrant.Rsa
