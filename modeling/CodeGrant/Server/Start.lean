import CodeGrant.Rsa.Generate
import CodeGrant.Server

/-! # Starting a server

A server starts with a fresh signing key, made from a seed, and with the store that
holds the sample client only.  Without a key there is no server.

It then needs its address.  The ports below 1024 are kept for privileged programs, and
this is none; port zero asks for any port that is free. -/

namespace CodeGrant

/-- The token issuer with a fresh key. -/
def TokenIssuer.generate (name : String) (seed : Bytes) : Except IssuerError TokenIssuer :=
  match Rsa.generate seed Rsa.signingKeyBits with
  | some key => ofKey name key
  | none => .error (.keyGeneration .tooFewPrimesFound)

namespace Server

/-- A server for a configuration, with a fresh key. -/
def start (config : Config) (seed : Bytes) : Except IssuerError Server :=
  (TokenIssuer.generate config.issuer seed).map fun tokens => ⟨config, tokens⟩

/-- Why a server does not get its address. -/
inductive AddressFault where
  /-- The port is kept for privileged programs. -/
  | permissionDenied
  /-- The address does not belong to this machine. -/
  | unavailable
  deriving DecidableEq, Repr

/-- The text about an address that a server does not get. -/
def AddressFault.message : AddressFault → String
  | permissionDenied => "Permission denied (os error 13)"
  | unavailable => "Cannot assign requested address (os error 99)"

/-- A port that is kept for privileged programs. -/
def isPrivilegedPort (port : UInt16) : Bool := port != 0 && port < 1024

/-- Why an address is refused that a server does not get. -/
def addressFault (address : Net.SocketAddress) : AddressFault :=
  if isPrivilegedPort address.port then .permissionDenied else .unavailable

end Server

end CodeGrant
