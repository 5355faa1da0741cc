import CodeGrant.Bytes

/-! # Base64url without padding

Three bytes take four characters of the alphabet `A-Z a-z 0-9 - _`; a rest of
one or two bytes takes two or three characters, whose last has its unused low
bits zero.  `decode?` reads exactly these texts: it refuses a rest of one
character, a character outside the alphabet and unused bits that are not zero. -/

namespace CodeGrant.Base64Url

/-- The character of a value below sixty-four. -/
def digit (n : Nat) : Char :=
  Char.ofNat (
    if n < 26 then 0x41 + n
    else if n < 52 then 0x61 + (n - 26)
    else if n < 62 then 0x30 + (n - 52)
    else if n = 62 then 0x2D
    else 0x5F)

/-- The value of a character of the alphabet. -/
def value? (c : Char) : Option Nat :=
  let n := c.toNat
  if 0x41 ≤ n ∧ n ≤ 0x5A then some (n - 0x41)
  else if 0x61 ≤ n ∧ n ≤ 0x7A then some (n - 0x61 + 26)
  else if 0x30 ≤ n ∧ n ≤ 0x39 then some (n - 0x30 + 52)
  else if n = 0x2D then some 62
  else if n = 0x5F then some 63
  else none

/-- The characters of `bytes` after those in `done`, which stand last one first. -/
def encodeFrom (done : List Char) : Bytes → List Char
  | [] => done.reverse
  | [a] => (digit (a.toNat % 4 * 16) :: digit (a.toNat / 4) :: done).reverse
  | [a, b] =>
    (digit (b.toNat % 16 * 4) :: digit (a.toNat % 4 * 16 + b.toNat / 16)
      :: digit (a.toNat / 4) :: done).reverse
  | a :: b :: c :: bytes =>
    encodeFrom
      (digit (c.toNat % 64) :: digit (b.toNat % 16 * 4 + c.toNat / 64)
        :: digit (a.toNat % 4 * 16 + b.toNat / 16) :: digit (a.toNat / 4) :: done)
      bytes

/-- Bytes as base64url characters. -/
def encode (bytes : Bytes) : String := String.ofList (encodeFrom [] bytes)

/-- The bytes of the characters after those of `done`, which stand last one first. -/
def decodeFrom (done : Bytes) : List Char → Option Bytes
  | [] => some done.reverse
  | [_] => none
  | [c, d] =>
    match value? c, value? d with
    | some v, some w =>
      if w % 16 = 0 then some (UInt8.ofNat (v * 4 + w / 16) :: done).reverse else none
    | _, _ => none
  | [c, d, e] =>
    match value? c, value? d, value? e with
    | some v, some w, some x =>
      if x % 4 = 0 then
        some (UInt8.ofNat (w % 16 * 16 + x / 4) :: UInt8.ofNat (v * 4 + w / 16) :: done).reverse
      else none
    | _, _, _ => none
  | c :: d :: e :: f :: chars =>
    match value? c, value? d, value? e, value? f with
    | some v, some w, some x, some y =>
      decodeFrom
        (UInt8.ofNat (x % 4 * 64 + y) :: UInt8.ofNat (w % 16 * 16 + x / 4)
          :: UInt8.ofNat (v * 4 + w / 16) :: done)
        chars
    | _, _, _, _ => none

/-- The bytes that a text writes, if it is canonical base64url without padding. -/
def decode? (text : String) : Option Bytes := decodeFrom [] text.toList

example : encode [1, 0, 1] = "AQAB" ∧ encode [0xFB, 0xFF] = "-_8" := by decide
example : decode? "-_8" = some [0xFB, 0xFF] ∧ decode? "-_9" = none ∧ decode? "A" = none := by
  decide

end CodeGrant.Base64Url
