import CodeGrant.Hex
import CodeGrant.Instant
import CodeGrant.Sha256

/-! # Conditions

An answer depends on the store and on the request, and on two things that come
from outside: what the clock shows and what is drawn at random.  `Conditions`
holds both for one request, so that handling a request is a function.

A draw is used as small hexadecimal digits, two a byte. -/

namespace CodeGrant

/-- What is drawn at random for one request. -/
structure Draws where
  clientId : Vector UInt8 16
  clientSecret : Vector UInt8 32
  code : Vector UInt8 32
  deriving DecidableEq, Repr

/-- What comes from outside while one request is handled. -/
structure Conditions where
  /-- The time when the request is judged. -/
  now : Instant
  /-- The time when its token is issued, if it gets one. -/
  signedAt : Instant
  draws : Draws
  deriving DecidableEq, Repr

/-- `count` bytes that follow from a seed: the digests of the seed with the numbers of the blocks,
one behind the other. -/
def expandSeed (seed : Bytes) (count : Nat) : Bytes :=
  ((List.range (count / 32 + 1)).flatMap fun block =>
    Sha256.digest (seed ++ Bytes.ofNatWidth 8 block)).take count

namespace Draws

/-- The draws that follow from a seed. -/
def ofSeed (seed : Bytes) : Draws :=
  let bytes := expandSeed seed 80
  ⟨Vector.ofFn fun i => bytes.getD i 0, Vector.ofFn fun i => bytes.getD (16 + i) 0,
    Vector.ofFn fun i => bytes.getD (48 + i) 0⟩

/-- The identifier of a client that is registered with these draws. -/
def clientIdText (draws : Draws) : String := Hex.encode draws.clientId.toList

/-- The secret of such a client. -/
def clientSecretText (draws : Draws) : String := Hex.encode draws.clientSecret.toList

/-- The authorization code that is issued with these draws. -/
def codeText (draws : Draws) : String := Hex.encode draws.code.toList

theorem length_clientIdText (draws : Draws) : draws.clientIdText.toList.length = 32 := by
  simp [clientIdText, Hex.length_encode]

theorem length_clientSecretText (draws : Draws) : draws.clientSecretText.toList.length = 64 := by
  simp [clientSecretText, Hex.length_encode]

theorem length_codeText (draws : Draws) : draws.codeText.toList.length = 64 := by
  simp [codeText, Hex.length_encode]

end Draws

end CodeGrant
