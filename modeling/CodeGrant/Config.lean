import CodeGrant.Endpoint
import CodeGrant.Net.Address
import CodeGrant.Text.Blank
import CodeGrant.Text.Quoted

/-! # Configuration

A server listens at an address and issues tokens in the name of an issuer, an URL
to which the paths of the endpoints are appended.  Slashes at the end of the
issuer are dropped, and a blank issuer is replaced by the local one
(`Config.new`). -/

namespace CodeGrant

/-- Where the server listens and in whose name it issues tokens. -/
structure Config where
  address : Net.SocketAddress
  issuer : String
  deriving DecidableEq, Repr

namespace Config

/-- The port without a choice. -/
def defaultPort : UInt16 := 9000

/-- The issuer of a server on this machine. -/
def localIssuer (port : UInt16) : String := "http://localhost:" ++ Nat.repr port.toNat

/-- The text without the slashes at its end. -/
def dropSlashes (text : String) : String :=
  String.ofList (Text.dropEndWhile (· == '/') text.toList)

/-- The issuer that was asked for, unless it is blank, and else the local one. -/
def chooseIssuer (port : UInt16) : Option String → String
  | some issuer => if Text.isBlank issuer then localIssuer port else issuer
  | none => localIssuer port

/-- The configuration for an address and an issuer, if one was asked for. -/
def new (address : Net.SocketAddress) (issuer : Option String) : Config :=
  ⟨address, dropSlashes (chooseIssuer address.port issuer)⟩

/-- The configuration of a server in a test: any free port of this machine, and a given issuer. -/
def forTesting (issuer : String) : Config := new (.v4 .loopback 0) (some issuer)

/-- The configuration without a choice. -/
def standard : Config :=
  new (.v4 .unspecified defaultPort) (some (localIssuer defaultPort))

/-- The URL of a path at this server. -/
def url (config : Config) (path : String) : String := config.issuer ++ path

/-- The URL of an endpoint. -/
def endpoint (config : Config) (e : Endpoint) : String := config.url e.path

/-- The URL of a registered client. -/
def clientUri (config : Config) (clientId : String) : String :=
  config.endpoint .registration ++ "/" ++ clientId

/-- The configuration as it is shown. -/
def describe (config : Config) : String :=
  "Config \x7b bind_addr: " ++ config.address.toText ++ ", issuer: " ++ Text.quoted config.issuer
    ++ " \x7d"

@[simp] theorem address_new (address : Net.SocketAddress) (issuer : Option String) :
    (new address issuer).address = address := rfl

example : standard.issuer = "http://localhost:9000" := by decide +kernel
example : (forTesting "https://a.example//").endpoint .token = "https://a.example/oauth/token" := by
  decide +kernel
example : (new (.v4 .loopback 80) (some " ")).issuer = "http://localhost:80" := by decide +kernel

end Config

end CodeGrant
