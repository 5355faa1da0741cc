/-! # Network addresses

An IPv4 address is four octets, an IPv6 address eight groups of sixteen bits, and
a socket address an IP address with a number of a port; with an IPv6 address also
a scope.

The text of an IPv6 address leaves out the longest run of two or more zero
groups, the first one on a tie, and writes `::` for it (`Ipv6.toText`); an address
that embeds an IPv4 address behind `::ffff:` ends in that address's text. -/

namespace CodeGrant.Net

/-- An IPv4 address. -/
structure Ipv4 where
  a : UInt8
  b : UInt8
  c : UInt8
  d : UInt8
  deriving DecidableEq, Repr

/-- An IPv6 address, as its eight groups. -/
structure Ipv6 where
  groups : Vector UInt16 8
  deriving DecidableEq, Repr

/-- An address of either kind. -/
inductive IpAddress where
  | v4 (address : Ipv4)
  | v6 (address : Ipv6)
  deriving DecidableEq, Repr

/-- An address and a port. -/
inductive SocketAddress where
  | v4 (address : Ipv4) (port : UInt16)
  | v6 (address : Ipv6) (port : UInt16) (scope : UInt32)
  deriving DecidableEq, Repr

/-- The address of the machine itself. -/
def Ipv4.loopback : Ipv4 := ⟨127, 0, 0, 1⟩

/-- The address that stands for every address of the machine. -/
def Ipv4.unspecified : Ipv4 := ⟨0, 0, 0, 0⟩

/-- The address and the port together, in no particular scope. -/
def SocketAddress.of (port : UInt16) : IpAddress → SocketAddress
  | .v4 address => .v4 address port
  | .v6 address => .v6 address port 0

/-- The port of a socket address. -/
def SocketAddress.port : SocketAddress → UInt16
  | v4 _ port => port
  | v6 _ port _ => port

@[simp] theorem SocketAddress.port_of (port : UInt16) (address : IpAddress) :
    (SocketAddress.of port address).port = port := by
  cases address <;> rfl

/-! ## Text -/

/-- The four octets in decimal, with dots between them. -/
def Ipv4.toText (address : Ipv4) : String :=
  ".".intercalate
    ([address.a, address.b, address.c, address.d].map fun octet => Nat.repr octet.toNat)

/-- A group in small hexadecimal digits, without leading zeros. -/
def groupText (group : UInt16) : String := String.ofList (Nat.toDigits 16 group.toNat)

/-- Groups with colons between them. -/
def groupsText (groups : List UInt16) : String := ":".intercalate (groups.map groupText)

/-- A stretch of groups. -/
structure Run where
  start : Nat
  length : Nat
  deriving DecidableEq, Repr

/-- The first longest run of zero groups among `groups`, which start at the given index, and the
one that is `best` so far; `current` ends right before them. -/
def longestZeroRunFrom (index : Nat) (best current : Run) : List UInt16 → Run
  | [] => best
  | group :: groups =>
    if group = 0 then
      let current : Run :=
        if current.length = 0 then ⟨index, 1⟩ else ⟨current.start, current.length + 1⟩
      let best := if best.length < current.length then current else best
      longestZeroRunFrom (index + 1) best current groups
    else longestZeroRunFrom (index + 1) best ⟨0, 0⟩ groups

/-- The first longest run of zero groups. -/
def longestZeroRun (groups : List UInt16) : Run := longestZeroRunFrom 0 ⟨0, 0⟩ ⟨0, 0⟩ groups

/-- The IPv4 address that an address embeds behind `::ffff:`. -/
def Ipv6.mapped? (address : Ipv6) : Option Ipv4 :=
  match address.groups.toList with
  | [0, 0, 0, 0, 0, 0xFFFF, high, low] =>
    some ⟨(high >>> 8).toUInt8, high.toUInt8, (low >>> 8).toUInt8, low.toUInt8⟩
  | _ => none

/-- The text of an IPv6 address. -/
def Ipv6.toText (address : Ipv6) : String :=
  match address.mapped? with
  | some v4 => "::ffff:" ++ v4.toText
  | none =>
    let groups := address.groups.toList
    let run := longestZeroRun groups
    if 1 < run.length then
      groupsText (groups.take run.start) ++ "::" ++ groupsText (groups.drop (run.start + run.length))
    else groupsText groups

/-- The text of an address. -/
def IpAddress.toText : IpAddress → String
  | v4 address => address.toText
  | v6 address => address.toText

/-- The text of a socket address: the IPv6 address stands in brackets, with a scope that is not
zero behind a percent sign. -/
def SocketAddress.toText : SocketAddress → String
  | v4 address port => address.toText ++ ":" ++ Nat.repr port.toNat
  | v6 address port scope =>
    "[" ++ address.toText ++ (if scope = 0 then "" else "%" ++ Nat.repr scope.toNat) ++ "]:"
      ++ Nat.repr port.toNat

example : Ipv4.loopback.toText = "127.0.0.1" := by decide +kernel
example : Ipv6.toText ⟨#v[0x2001, 0xDB8, 0, 0, 1, 0, 0, 1]⟩ = "2001:db8::1:0:0:1" := by
  decide +kernel
example : Ipv6.toText ⟨#v[0, 0, 0, 0, 0, 0xFFFF, 0xC000, 0x0201]⟩ = "::ffff:192.0.2.1" := by
  decide +kernel
example : (SocketAddress.v6 ⟨#v[0, 0, 0, 0, 0, 0, 0, 1]⟩ 80 3).toText = "[::1%3]:80" := by
  decide +kernel

end CodeGrant.Net
