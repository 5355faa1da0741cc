import CodeGrant.Bytes

/-! # UTF-8

Bytes become text one byte at a time.  Between characters nothing is owed; after
a first byte the reader knows how many more bytes the character takes and in
which range the next one must lie (`Pending`).  A byte outside that range ends
an ill-formed stretch, and is itself read as a first byte.

`pieces` lists the characters of a byte string, with `none` for each ill-formed
stretch; `decode?` wants no such stretch, `decodeLossy` writes U+FFFD for it. -/

namespace CodeGrant.Utf8

/-- The bytes of a text. -/
def encode (text : String) : Bytes := text.toList.flatMap String.utf8EncodeChar

@[simp] theorem encode_empty : encode "" = [] := rfl

theorem encode_append (s t : String) : encode (s ++ t) = encode s ++ encode t := by
  simp [encode, String.toList_append]

/-- A character under way: its value so far, how many bytes it still takes, and the range of the
next one. -/
structure Pending where
  value : Nat
  owed : Nat
  least : UInt8
  greatest : UInt8
  deriving DecidableEq, Repr

/-- What a byte says when no character is under way: a whole character, the start of one, or
nothing that a character starts with. -/
def first (b : UInt8) : List (Option Char) × Option Pending :=
  if b ≤ 0x7F then ([some (Char.ofNat b.toNat)], none)
  else if 0xC2 ≤ b ∧ b ≤ 0xDF then ([], some ⟨b.toNat - 0xC0, 1, 0x80, 0xBF⟩)
  else if b = 0xE0 then ([], some ⟨0, 2, 0xA0, 0xBF⟩)
  else if b = 0xED then ([], some ⟨0xD, 2, 0x80, 0x9F⟩)
  else if 0xE1 ≤ b ∧ b ≤ 0xEF then ([], some ⟨b.toNat - 0xE0, 2, 0x80, 0xBF⟩)
  else if b = 0xF0 then ([], some ⟨0, 3, 0x90, 0xBF⟩)
  else if 0xF1 ≤ b ∧ b ≤ 0xF3 then ([], some ⟨b.toNat - 0xF0, 3, 0x80, 0xBF⟩)
  else if b = 0xF4 then ([], some ⟨4, 3, 0x80, 0x8F⟩)
  else ([none], none)

/-- One byte: the pieces that it completes, in order, and the character then under way. -/
def step : Option Pending → UInt8 → List (Option Char) × Option Pending
  | none, b => first b
  | some p, b =>
    if p.least ≤ b ∧ b ≤ p.greatest then
      let value := p.value * 64 + b.toNat % 64
      if p.owed = 1 then ([some (Char.ofNat value)], none)
      else ([], some ⟨value, p.owed - 1, 0x80, 0xBF⟩)
    else
      let (done, pending) := first b
      (none :: done, pending)

/-- The pieces of `bytes` that follow `done`, which holds the earlier pieces last one first. -/
def piecesFrom : Option Pending → List (Option Char) → Bytes → List (Option Char)
  | none, done, [] => done.reverse
  | some _, done, [] => (none :: done).reverse
  | pending, done, b :: bytes =>
    let (new, pending) := step pending b
    piecesFrom pending (new.reverse ++ done) bytes

/-- The characters of a byte string in order, `none` for each longest ill-formed stretch. -/
def pieces (bytes : Bytes) : List (Option Char) := piecesFrom none [] bytes

/-- The text that the bytes write, if they are well formed throughout. -/
def decode? (bytes : Bytes) : Option String :=
  let found := pieces bytes
  if found.all Option.isSome then some (String.ofList (found.filterMap id)) else none

/-- The text that the bytes write, with U+FFFD for each ill-formed stretch. -/
def decodeLossy (bytes : Bytes) : String :=
  String.ofList ((pieces bytes).map (·.getD '\uFFFD'))

example : decode? [0x61, 0xC3, 0xA9, 0xF0, 0x9F, 0x98, 0x80] = some "aé😀" := by decide
example : decodeLossy [0xF0, 0x90, 0x41, 0xED, 0xA0, 0x80] = "\uFFFDA\uFFFD\uFFFD\uFFFD" := by
  decide

end CodeGrant.Utf8
