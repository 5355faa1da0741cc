import CodeGrant.Hex
import CodeGrant.Text.Utf8

/-! # Scanning JSON

The leaves of the JSON grammar, read off the front of a byte string: blanks,
words, numerals and quoted texts.  Each scanner says what it found and what is
left, or why it stopped (`Fault`).

A text or numeral can be *kept* or merely *skipped*, and less is asked of what is
skipped: a skipped text may hold bytes that are not UTF-8 and halves of surrogate
pairs, a skipped numeral may be out of range. -/

namespace CodeGrant.Json

/-- Why a document cannot be read. -/
inductive Fault where
  /-- It is not JSON, or a kept text or number does not stand for one. -/
  | malformed
  /-- It is JSON so far, but not of the shape that is read. -/
  | mismatch
  /-- It ends too soon. -/
  | truncated
  deriving DecidableEq, Repr

/-- Space, tab, line feed and carriage return. -/
def isBlank (b : UInt8) : Bool := b == 0x20 || b == 0x09 || b == 0x0A || b == 0x0D

/-- The bytes after the leading blanks. -/
def skipBlanks (bytes : Bytes) : Bytes := bytes.dropWhile isBlank

/-- What follows the bytes of `word`. -/
def scanWord : Bytes → Bytes → Except Fault Bytes
  | [], bytes => .ok bytes
  | _ :: _, [] => .error .truncated
  | w :: word, b :: bytes => if b = w then scanWord word bytes else .error .malformed

/-- The letters of `null` after the first. -/
def nullRest : Bytes := [0x75, 0x6C, 0x6C]

/-- The letters of `true` after the first. -/
def trueRest : Bytes := [0x72, 0x75, 0x65]

/-- The letters of `false` after the first. -/
def falseRest : Bytes := [0x61, 0x6C, 0x73, 0x65]

/-! ## Numerals -/

/-- A decimal digit. -/
def isDigit (b : UInt8) : Bool := 0x30 ≤ b && b ≤ 0x39

/-- A numeral, cut into its parts; every part that is there holds a digit. -/
structure Numeral where
  negative : Bool
  whole : Bytes
  fraction : Bytes
  exponent : Option (Bool × Bytes)
  deriving DecidableEq, Repr

/-- The digits at the front and what follows them; there must be one. -/
def scanDigits (atEnd : Fault) (bytes : Bytes) : Except Fault (Bytes × Bytes) :=
  match bytes with
  | [] => .error atEnd
  | b :: _ =>
    if isDigit b then .ok (bytes.takeWhile isDigit, bytes.dropWhile isDigit)
    else .error .malformed

/-- The digits before the point: a zero alone, or digits that do not start with one. -/
def scanWhole (atEnd : Fault) : Bytes → Except Fault (Bytes × Bytes)
  | 0x30 :: b :: bytes => if isDigit b then .error .malformed else .ok ([0x30], b :: bytes)
  | bytes => scanDigits atEnd bytes

/-- The digits after the point, none when there is no point. -/
def scanFraction (atEnd : Fault) : Bytes → Except Fault (Bytes × Bytes)
  | 0x2E :: bytes => scanDigits atEnd bytes
  | bytes => .ok ([], bytes)

/-- The exponent with its sign (`true` for a minus), if there is one. -/
def scanExponent (atEnd : Fault) : Bytes → Except Fault (Option (Bool × Bytes) × Bytes)
  | b :: bytes =>
    if b = 0x65 ∨ b = 0x45 then do
      let (negative, bytes) :=
        match bytes with
        | 0x2B :: bytes => (false, bytes)
        | 0x2D :: bytes => (true, bytes)
        | bytes => (false, bytes)
      let (digits, bytes) ← scanDigits atEnd bytes
      .ok (some (negative, digits), bytes)
    else .ok (none, b :: bytes)
  | [] => .ok (none, [])

/-- A numeral and what follows it; `atEnd` is the fault of one that breaks off. -/
def scanNumeral (atEnd : Fault) (bytes : Bytes) : Except Fault (Numeral × Bytes) := do
  let (negative, bytes) :=
    match bytes with
    | 0x2D :: bytes => (true, bytes)
    | bytes => (false, bytes)
  let (whole, bytes) ← scanWhole atEnd bytes
  let (fraction, bytes) ← scanFraction atEnd bytes
  let (exponent, bytes) ← scanExponent atEnd bytes
  .ok (⟨negative, whole, fraction, exponent⟩, bytes)

/-- The greatest significand that is gathered; digits beyond it only count. -/
def significandLimit : Nat := UInt64.size - 1

/-- The digits before the point as a significand and the number of digits left over. -/
def gatherWhole (digits : Bytes) : Nat × Nat :=
  digits.foldl
    (fun (significand, dropped) b =>
      let next := significand * 10 + (b.toNat - 0x30)
      if dropped = 0 ∧ next ≤ significandLimit then (next, 0) else (significand, dropped + 1))
    (0, 0)

/-- The digits after the point, gathered behind a significand: the new significand, and how many
of the digits it took up before it was full. -/
def gatherFraction (significand : Nat) (digits : Bytes) : Nat × Nat :=
  let (significand, taken, _) :=
    digits.foldl
      (fun (significand, taken, full) b =>
        let next := significand * 10 + (b.toNat - 0x30)
        if full = false ∧ next ≤ significandLimit then (next, taken + 1, false)
        else (significand, taken, true))
      (significand, 0, false)
  (significand, taken)

/-- The value of an exponent's digits; beyond `1 <<< 31` one is as good as another. -/
def exponentValue (digits : Bytes) : Nat :=
  digits.foldl (fun n b => min (n * 10 + (b.toNat - 0x30)) (1 <<< 31)) 0

/-- The number nearest to `n` that has fifty-three significant bits, a tie going to the even one. -/
def roundToDouble (n : Nat) : Nat :=
  let shift := Bytes.bitLength n - 53
  if shift = 0 then n
  else
    let kept := n >>> shift
    let rest := n % (1 <<< shift)
    let half := 1 <<< (shift - 1)
    (if half < rest ∨ (rest = half ∧ kept % 2 = 1) then kept + 1 else kept) <<< shift

/-- The least number that rounds to infinity. -/
def doubleOverflow : Nat := 1 <<< 1024 - 1 <<< 970

/-- Whether the numeral, gathered and scaled by a rounded power of ten, is too large for a
double. -/
def Numeral.isHuge (numeral : Numeral) : Bool :=
  let (significand, dropped) := gatherWhole numeral.whole
  let (significand, taken) := gatherFraction significand numeral.fraction
  let scale : Int := (dropped : Int) - taken +
    match numeral.exponent with
    | none => 0
    | some (true, digits) => -(exponentValue digits : Int)
    | some (false, digits) => (exponentValue digits : Int)
  significand != 0 && 0 ≤ scale
    && (308 < scale
      || doubleOverflow ≤ roundToDouble significand * roundToDouble (Nat.pow 10 scale.toNat))

/-- The integer that a numeral writes plainly: no fraction, no exponent, not `-0`, and not so long
that it is gathered in part only. -/
def Numeral.integer? (numeral : Numeral) : Option Int :=
  match numeral.fraction, numeral.exponent, gatherWhole numeral.whole with
  | [], none, (n, 0) =>
    if numeral.negative then (if n = 0 then none else some (-(n : Int))) else some (n : Int)
  | _, _, _ => none

/-- A kept numeral: it must not break off and not be huge. -/
def readNumeral (bytes : Bytes) : Except Fault (Numeral × Bytes) := do
  let (numeral, bytes) ← scanNumeral .truncated bytes
  if numeral.isHuge then .error .malformed else .ok (numeral, bytes)

/-- What follows a skipped numeral. -/
def skipNumeral (bytes : Bytes) : Except Fault Bytes := do
  let (_, bytes) ← scanNumeral .malformed bytes
  .ok bytes

/-! ## Texts -/

/-- The byte that a short escape stands for. -/
def shortEscape? (b : UInt8) : Option UInt8 :=
  if b = 0x22 ∨ b = 0x5C ∨ b = 0x2F then some b
  else if b = 0x62 then some 0x08
  else if b = 0x66 then some 0x0C
  else if b = 0x6E then some 0x0A
  else if b = 0x72 then some 0x0D
  else if b = 0x74 then some 0x09
  else none

/-- The value of four hexadecimal digits. -/
def hex4? (a b c d : UInt8) : Option Nat :=
  match Hex.value? a.toNat, Hex.value? b.toNat, Hex.value? c.toNat, Hex.value? d.toNat with
  | some v, some w, some x, some y => some (((v * 16 + w) * 16 + x) * 16 + y)
  | _, _, _, _ => none

/-- The first half of a surrogate pair. -/
def isHighHalf (n : Nat) : Bool := 0xD800 ≤ n && n ≤ 0xDBFF

/-- The second half of a surrogate pair. -/
def isLowHalf (n : Nat) : Bool := 0xDC00 ≤ n && n ≤ 0xDFFF

/-- The character of a surrogate pair. -/
def pairChar (high low : Nat) : Char :=
  Char.ofNat (0x10000 + (high - 0xD800) * 0x400 + (low - 0xDC00))

/-- What follows a skipped text whose opening quotation mark has been read. -/
def skipText : Bytes → Except Fault Bytes
  | [] => .error .truncated
  | b :: bytes =>
    if b = 0x22 then .ok bytes
    else if b = 0x5C then
      match bytes with
      | [] => .error .truncated
      | e :: bytes =>
        if e = 0x75 then
          match bytes with
          | h1 :: h2 :: h3 :: h4 :: bytes =>
            if (hex4? h1 h2 h3 h4).isSome then skipText bytes else .error .malformed
          | _ => .error .truncated
        else if (shortEscape? e).isSome then skipText bytes
        else .error .malformed
    else if b < 0x20 then .error .malformed
    else skipText bytes

/-- A quotation mark ends a text that is skipped. -/
theorem skipText_quote (bytes : Bytes) : skipText (0x22 :: bytes) = .ok bytes := by
  rw [skipText.eq_def]
  rfl

/-- The bytes of a kept text, last one first, behind those of `done`, and what follows the text.
`high` is the first half of a surrogate pair when one has just been read. -/
def gatherText : Option Nat → Bytes → Bytes → Except Fault (Bytes × Bytes)
  | _, _, [] => .error .truncated
  | high, done, b :: bytes =>
    if b = 0x5C then
      match bytes with
      | [] => .error .truncated
      | e :: bytes =>
        if e = 0x75 then
          match bytes with
          | h1 :: h2 :: h3 :: h4 :: bytes =>
            match hex4? h1 h2 h3 h4, high with
            | none, _ => .error .malformed
            | some n, some h =>
              if isLowHalf n then
                gatherText none
                  ((String.utf8EncodeChar (pairChar h n)).reverse ++ done) bytes
              else .error .malformed
            | some n, none =>
              if isLowHalf n then .error .malformed
              else if isHighHalf n then gatherText (some n) done bytes
              else
                gatherText none
                  ((String.utf8EncodeChar (Char.ofNat n)).reverse ++ done) bytes
          | _ => .error .truncated
        else
          match shortEscape? e, high with
          | some c, none => gatherText none (c :: done) bytes
          | _, _ => .error .malformed
    else if high.isSome then .error .malformed
    else if b = 0x22 then .ok (done, bytes)
    else if b < 0x20 then .error .malformed
    else gatherText none (b :: done) bytes

/-- A quotation mark ends a text that is kept, unless the second half of a pair must come. -/
theorem gatherText_quote (high : Option Nat) (done bytes : Bytes) :
    gatherText high done (0x22 :: bytes) =
      if high.isSome then .error .malformed else .ok (done, bytes) := by
  rw [gatherText.eq_def]
  cases high <;> rfl

/-- A kept text whose opening quotation mark has been read, and what follows it. -/
def readText (bytes : Bytes) : Except Fault (String × Bytes) := do
  let (gathered, bytes) ← gatherText none [] bytes
  match Utf8.decode? gathered.reverse with
  | some content => .ok (content, bytes)
  | none => .error .malformed

end CodeGrant.Json
