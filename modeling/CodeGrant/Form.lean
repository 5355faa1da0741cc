import CodeGrant.Hex
import CodeGrant.Text.Utf8

/-! # Form-encoded parameters

Queries and token requests carry pairs of names and values as
`application/x-www-form-urlencoded`: pairs are joined by `&`, a name is separated
from its value by the first `=`, a space is written `+` and any other byte
outside `A-Z a-z 0-9 * - . _` is written `%` and two capital hexadecimal digits.

Reading refuses nothing.  An empty pair is skipped, a `%` without two digits
behind it stands for itself, and bytes that are not UTF-8 read as U+FFFD.  Of a
name that occurs more than once the first value counts (`get`). -/

namespace CodeGrant.Form

/-- Names and values in the order in which they are written. -/
abbrev Params := List (String × String)

/-- The bytes that stand for themselves. -/
def isPlain (b : UInt8) : Bool :=
  (0x30 ≤ b && b ≤ 0x39) || (0x41 ≤ b && b ≤ 0x5A) || (0x61 ≤ b && b ≤ 0x7A)
    || b == 0x2A || b == 0x2D || b == 0x2E || b == 0x5F

/-- A byte as it is written. -/
def encodeByte (b : UInt8) : List Char :=
  if isPlain b then [Char.ofNat b.toNat]
  else if b = 0x20 then ['+']
  else ['%', Hex.capitalDigit (b.toNat / 16), Hex.capitalDigit (b.toNat % 16)]

/-- A name or a value as it is written. -/
def encodeText (text : String) : String :=
  String.ofList ((Utf8.encode text).flatMap encodeByte)

/-- A pair as it is written. -/
def encodePair (pair : String × String) : String :=
  encodeText pair.1 ++ "=" ++ encodeText pair.2

/-- Pairs as they are written, in order. -/
def encode (params : Params) : String :=
  "&".intercalate (params.map encodePair)

/-- A plus sign reads as a space. -/
def plusToSpace (b : UInt8) : UInt8 := if b = 0x2B then 0x20 else b

/-- The bytes that percent-encoded bytes stand for, after those of `done`, which stand last one
first. -/
def percentDecodeFrom (done : Bytes) : Bytes → Bytes
  | [] => done.reverse
  | [a] => (a :: done).reverse
  | [a, b] => (b :: a :: done).reverse
  | a :: b :: c :: bytes =>
    match a == 0x25, Hex.value? b.toNat, Hex.value? c.toNat with
    | true, some high, some low =>
      percentDecodeFrom (UInt8.ofNat (high * 16 + low) :: done) bytes
    | _, _, _ => percentDecodeFrom (a :: done) (b :: c :: bytes)

/-- A name or a value as it reads. -/
def decodeText (bytes : Bytes) : String :=
  Utf8.decodeLossy (percentDecodeFrom [] (bytes.map plusToSpace))

/-- A pair as it reads; without `=` the value is empty. -/
def decodePair (bytes : Bytes) : String × String :=
  let (name, value) := Bytes.cut 0x3D bytes
  (decodeText name, decodeText value)

/-- The pairs that the bytes write, in order. -/
def decode (bytes : Bytes) : Params :=
  ((Bytes.splitOn 0x26 bytes).filter (· != [])).map decodePair

/-- The first value of a name, empty when the name does not occur. -/
def get (params : Params) (name : String) : String := (params.lookup name).getD ""

@[simp] theorem get_nil (name : String) : get [] name = "" := rfl

/-- The first pair decides for its own name and for no other. -/
theorem get_cons (pair : String × String) (params : Params) (name : String) :
    get (pair :: params) name = if name = pair.1 then pair.2 else get params name := by
  obtain ⟨key, value⟩ := pair
  by_cases h : name = key
  · subst h; simp [get]
  · simp [get, List.lookup_cons, beq_false_of_ne h, h]

end CodeGrant.Form
