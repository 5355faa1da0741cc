import CodeGrant.Bytes

/-! # Hexadecimal

Identifiers, secrets and codes are random bytes in small hexadecimal digits
(`Hex.encode`), two digits a byte (`length_encode`).  Digits of either case are
read (`Hex.value?`). -/

namespace CodeGrant.Hex

/-- The digit of a value below sixteen, in small letters. -/
def digit (n : Nat) : Char := Char.ofNat (if n < 10 then 0x30 + n else 0x57 + n)

/-- The digit of a value below sixteen, in capital letters. -/
def capitalDigit (n : Nat) : Char := Char.ofNat (if n < 10 then 0x30 + n else 0x37 + n)

/-- The two digits of a byte, high digit first. -/
def pair (b : UInt8) : List Char := [digit (b.toNat / 16), digit (b.toNat % 16)]

/-- Bytes as small hexadecimal digits. -/
def encode (bytes : Bytes) : String := String.ofList (bytes.flatMap pair)

/-- **Two digits a byte.** -/
theorem length_encode (bytes : Bytes) : (encode bytes).toList.length = 2 * bytes.length := by
  rw [encode, String.toList_ofList]
  induction bytes with
  | nil => rfl
  | cons b bytes ih => simp [pair, ih]; omega

/-- The value of a hexadecimal digit of either case, given by its code. -/
def value? (code : Nat) : Option Nat :=
  if 0x30 ≤ code ∧ code ≤ 0x39 then some (code - 0x30)
  else if 0x41 ≤ code ∧ code ≤ 0x46 then some (code - 0x37)
  else if 0x61 ≤ code ∧ code ≤ 0x66 then some (code - 0x57)
  else none

example : encode [0, 0x1f, 0xff] = "001fff" := by decide

end CodeGrant.Hex
