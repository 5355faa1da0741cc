import CodeGrant.Hex
import CodeGrant.Net.Address

/-! # Reading network addresses

Each reader takes what it wants off the front of a list of characters and gives
what is left.  An address is read from a text only if nothing is left.

An IPv6 address has eight groups of at most four hexadecimal digits, or fewer
with one `::` for the zero groups left out.  Its last two groups may be written
as an IPv4 address. -/

namespace CodeGrant.Net

/-- What is left behind one character. -/
def expect (c : Char) : List Char → Option (List Char)
  | [] => none
  | d :: chars => if d = c then some chars else none

/-- A decimal digit. -/
def isDecimal (c : Char) : Bool := '0' ≤ c && c ≤ '9'

/-- The number that decimal digits write. -/
def decimalValue (digits : List Char) : Nat :=
  digits.foldl (fun n c => n * 10 + (c.toNat - 0x30)) 0

/-- A decimal number below `bound` with all the digits there are. -/
def readDecimal (bound : Nat) (chars : List Char) : Option (Nat × List Char) :=
  let digits := chars.takeWhile isDecimal
  let n := decimalValue digits
  if digits = [] then none
  else if n < bound then some (n, chars.dropWhile isDecimal)
  else none

/-- An octet: at most three digits, and no zero ahead of others. -/
def readOctet (chars : List Char) : Option (UInt8 × List Char) :=
  let digits := chars.takeWhile isDecimal
  if 3 < digits.length ∨ (digits.head? = some '0' ∧ 1 < digits.length) then none
  else (readDecimal 256 chars).map fun (n, rest) => (UInt8.ofNat n, rest)

/-- Four octets with dots between them. -/
def readIpv4 (chars : List Char) : Option (Ipv4 × List Char) := do
  let (a, chars) ← readOctet chars
  let (b, chars) ← readOctet (← expect '.' chars)
  let (c, chars) ← readOctet (← expect '.' chars)
  let (d, chars) ← readOctet (← expect '.' chars)
  some (⟨a, b, c, d⟩, chars)

/-- A hexadecimal digit of either case. -/
def isHexadecimal (c : Char) : Bool := (Hex.value? c.toNat).isSome

/-- A group: one to four hexadecimal digits. -/
def readGroup (chars : List Char) : Option (UInt16 × List Char) :=
  let digits := chars.takeWhile isHexadecimal
  if digits = [] ∨ 4 < digits.length then none
  else
    let n := digits.foldl (fun n c => n * 16 + (Hex.value? c.toNat).getD 0) 0
    some (UInt16.ofNat n, chars.dropWhile isHexadecimal)

/-- What stands before a group: a colon, except at the first one. -/
def beforeGroup (first : Bool) (chars : List Char) : Option (List Char) :=
  if first then some chars else expect ':' chars

/-- The two groups of an IPv4 address. -/
def Ipv4.groups (address : Ipv4) : List UInt16 :=
  [(address.a.toUInt16 <<< 8) ||| address.b.toUInt16,
   (address.c.toUInt16 <<< 8) ||| address.d.toUInt16]

/-- At most `limit` groups, as many as there are, with colons between them; whether the last two
were written as an IPv4 address; and what is left. -/
def readGroups (first : Bool) : Nat → List Char → List UInt16 × Bool × List Char
  | 0, chars => ([], false, chars)
  | limit + 1, chars =>
    let embedded := if limit = 0 then none else beforeGroup first chars >>= readIpv4
    match embedded with
    | some (address, rest) => (address.groups, true, rest)
    | none =>
      match beforeGroup first chars >>= readGroup with
      | none => ([], false, chars)
      | some (group, rest) =>
        let (groups, embedded, rest) := readGroups false limit rest
        (group :: groups, embedded, rest)

/-- An address with these groups at its front and those at its back, and zeros between them. -/
def Ipv6.ofEnds (front back : List UInt16) : Ipv6 :=
  let groups := front ++ List.replicate (8 - front.length - back.length) 0 ++ back
  ⟨Vector.ofFn fun i => groups.getD i 0⟩

/-- An IPv6 address. -/
def readIpv6 (chars : List Char) : Option (Ipv6 × List Char) :=
  let (front, embedded, rest) := readGroups true 8 chars
  if front.length = 8 then some (Ipv6.ofEnds front [], rest)
  else if embedded then none
  else do
    let rest ← expect ':' rest
    let rest ← expect ':' rest
    let (back, _, rest) := readGroups true (7 - front.length) rest
    some (Ipv6.ofEnds front back, rest)

/-- A colon and a port. -/
def readPort (chars : List Char) : Option (UInt16 × List Char) := do
  let (n, rest) ← readDecimal 65536 (← expect ':' chars)
  some (UInt16.ofNat n, rest)

/-- A percent sign and a scope, or nothing for the scope zero. -/
def readScope (chars : List Char) : UInt32 × List Char :=
  match expect '%' chars >>= readDecimal 4294967296 with
  | some (n, rest) => (UInt32.ofNat n, rest)
  | none => (0, chars)

/-- An IPv6 address in brackets, perhaps with a scope, and a port. -/
def readBracketed (chars : List Char) : Option (SocketAddress × List Char) := do
  let (address, chars) ← readIpv6 (← expect '[' chars)
  let (scope, chars) := readScope chars
  let (port, chars) ← readPort (← expect ']' chars)
  some (.v6 address port scope, chars)

/-- An IPv4 address and a port. -/
def readPlain (chars : List Char) : Option (SocketAddress × List Char) := do
  let (address, chars) ← readIpv4 chars
  let (port, chars) ← readPort chars
  some (.v4 address port, chars)

/-- What is read off the front of a text, if that is all of it. -/
def whole {α : Type} (result : Option (α × List Char)) : Option α :=
  match result with
  | some (value, []) => some value
  | _ => none

/-- The address that a text writes. -/
def IpAddress.ofText? (text : String) : Option IpAddress :=
  let chars := text.toList
  match readIpv4 chars with
  | some (address, rest) => whole (some (.v4 address, rest))
  | none => (whole (readIpv6 chars)).map .v6

/-- The socket address that a text writes. -/
def SocketAddress.ofText? (text : String) : Option SocketAddress :=
  let chars := text.toList
  whole (readPlain chars <|> readBracketed chars)

example : IpAddress.ofText? "127.0.0.1" = some (.v4 .loopback) := by decide +kernel
example : IpAddress.ofText? "1.2.3" = none ∧ IpAddress.ofText? "01.2.3.4" = none := by
  decide +kernel
example : IpAddress.ofText? "::ffff:1.2.3.4"
    = some (.v6 ⟨#v[0, 0, 0, 0, 0, 0xFFFF, 0x0102, 0x0304]⟩) := by decide +kernel
example : IpAddress.ofText? "1:2:3:4:5:6:7::" = some (.v6 ⟨#v[1, 2, 3, 4, 5, 6, 7, 0]⟩) := by
  decide +kernel
example : IpAddress.ofText? "1:2:3:4:5:6:7::8" = none ∧ IpAddress.ofText? "::1::" = none := by
  decide +kernel
example : (SocketAddress.ofText? "[::1%3]:80").map (·.toText) = some "[::1%3]:80" := by
  decide +kernel

end CodeGrant.Net
