import CodeGrant.Config
import CodeGrant.Environment
import CodeGrant.Net.Reading
import CodeGrant.Text.Decimal

/-! # Configuration from the environment

`HOST` and `PORT` say where to listen and `OAUTH_ISSUER` in whose name to issue
tokens.  A variable that is not set takes its default.  A host that cannot be read
is reported before a port that cannot be read. -/

namespace CodeGrant

namespace Config

/-- Why the environment makes no configuration. -/
inductive EnvironmentError where
  /-- `HOST` is not an address. -/
  | host
  /-- `PORT` is not a port. -/
  | port (fault : Decimal.Fault)
  deriving DecidableEq, Repr

/-- What is said about a text that is not an address. -/
def notAnAddress : String := "invalid IP address syntax"

/-- The text of an error. -/
def EnvironmentError.message : EnvironmentError → String
  | host => notAnAddress
  | port fault => fault.message

/-- The port that a text writes. -/
def readPort (text : String) : Except Decimal.Fault UInt16 :=
  (Decimal.read 0 65535 text).map fun n => UInt16.ofNat n.toNat

/-- The address to listen at. -/
def environmentHost (env : Environment) : Except EnvironmentError Net.IpAddress :=
  match env.value? "HOST" with
  | none => .ok (.v4 .unspecified)
  | some text =>
    match Net.IpAddress.ofText? text with
    | some host => .ok host
    | none => .error .host

/-- The port to listen at. -/
def environmentPort (env : Environment) : Except EnvironmentError UInt16 :=
  match env.value? "PORT" with
  | none => .ok defaultPort
  | some text =>
    match readPort text with
    | .ok port => .ok port
    | .error fault => .error (.port fault)

/-- The configuration that the environment asks for. -/
def ofEnvironment (env : Environment) : Except EnvironmentError Config := do
  let host ← environmentHost env
  let port ← environmentPort env
  .ok (new (.of port host) (env.value? "OAUTH_ISSUER"))

end Config

end CodeGrant
