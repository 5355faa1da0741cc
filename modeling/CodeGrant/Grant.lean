import CodeGrant.Instant

/-! # Grants

A grant is what an authorization code stands for: who asked for it, where the code
was sent, the challenge that the bearer must meet, and what the token will be good
for. -/

namespace CodeGrant

/-- What an authorization code stands for. -/
structure Grant where
  clientId : String
  redirectUri : String
  challenge : String
  challengeMethod : String
  /-- The audience of the token. -/
  resource : String
  scope : String
  expiresAt : Instant
  deriving DecidableEq, Repr

namespace Grant

/-- How long a code is good for, in seconds. -/
def lifetime : Nat := 600

/-- Whether the grant is over; at its very last instant it is not. -/
def isExpiredAt (grant : Grant) (now : Instant) : Bool := now.isAfter grant.expiresAt

end Grant

end CodeGrant
