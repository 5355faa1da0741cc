import CodeGrant.ProtocolError

/-! # Errors of the token issuer

Making a key, taking it over and signing with it can fail, each for reasons of its
own.  A client is told none of them: every one of these errors is the same failure
of the server to it. -/

namespace CodeGrant

/-- Why no key could be made. -/
inductive KeyGenerationFault where
  /-- Fewer than two primes were asked for. -/
  | tooFewPrimesAsked
  /-- There are not enough primes of the length asked for. -/
  | tooFewPrimesFound
  | invalidPrime
  | invalidModulus
  | internal
  deriving DecidableEq, Repr

/-- The text of a fault. -/
def KeyGenerationFault.message : KeyGenerationFault → String
  | tooFewPrimesAsked => "nprimes must be >= 2"
  | tooFewPrimesFound => "too few primes of given length to generate an RSA key"
  | invalidPrime => "invalid prime value"
  | invalidModulus => "invalid modulus"
  | internal => "internal error"

/-- Why a key could not be taken over. -/
inductive KeyEncodingFault where
  | version
  | cryptographic
  /-- The key has more than two primes. -/
  | malformed
  deriving DecidableEq, Repr

/-- The text of a fault. -/
def KeyEncodingFault.message : KeyEncodingFault → String
  | version => "PKCS#1 version error"
  | cryptographic => "PKCS#1 cryptographic error"
  | malformed => "PKCS#8 cryptographic key data malformed"

/-- Why a token could not be signed. -/
inductive SigningFault where
  | invalidKeyFormat
  /-- The signature did not come back to what was signed, which no key of two primes brings about. -/
  | failed
  /-- The key does not sign, for the reason named. -/
  | invalidKey (reason : String)
  | missingClaim (name : String)
  deriving DecidableEq, Repr

/-- The text of a fault. -/
def SigningFault.message : SigningFault → String
  | invalidKeyFormat => "InvalidKeyFormat"
  | failed => "RsaFailedSigning"
  | invalidKey reason => "RSA key invalid: " ++ reason
  | missingClaim name => "Missing required claim: " ++ name

/-- Why there is no token issuer or no token. -/
inductive IssuerError where
  | keyGeneration (fault : KeyGenerationFault)
  | keyEncoding (fault : KeyEncodingFault)
  | signing (fault : SigningFault)
  deriving DecidableEq, Repr

namespace IssuerError

/-- The text of the fault behind an error. -/
def cause : IssuerError → String
  | keyGeneration fault => fault.message
  | keyEncoding fault => fault.message
  | signing fault => fault.message

/-- The text of an error. -/
def message : IssuerError → String
  | keyGeneration fault => "failed to generate RSA key: " ++ fault.message
  | keyEncoding fault => "failed to encode RSA key: " ++ fault.message
  | signing fault => "failed to sign token: " ++ fault.message

/-- What a client is told. -/
def toProtocolError (_ : IssuerError) : ProtocolError := .tokenNotIssued

end IssuerError

end CodeGrant
