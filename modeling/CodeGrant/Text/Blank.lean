/-! # Blank text

White space as Unicode defines it.  A text is blank when nothing else is in it,
and trimming takes white space off both ends. -/

namespace CodeGrant.Text

/-- The characters with the property White_Space. -/
def isBlankChar (c : Char) : Bool :=
  let n := c.toNat
  (0x09 ≤ n && n ≤ 0x0D) || n == 0x20 || n == 0x85 || n == 0xA0 || n == 0x1680
    || (0x2000 ≤ n && n ≤ 0x200A) || n == 0x2028 || n == 0x2029 || n == 0x202F
    || n == 0x205F || n == 0x3000

/-- No character but white space, or no character at all. -/
def isBlank (text : String) : Bool := text.toList.all isBlankChar

/-- The list without the blank characters at its start. -/
def trimStart (chars : List Char) : List Char := chars.dropWhile isBlankChar

/-- The list without the characters at its end that satisfy `p`. -/
def dropEndWhile (p : Char → Bool) (chars : List Char) : List Char :=
  (chars.reverse.dropWhile p).reverse

/-- The text without white space at either end. -/
def trim (text : String) : String :=
  String.ofList (dropEndWhile isBlankChar (trimStart text.toList))

@[simp] theorem isBlank_empty : isBlank "" = true := rfl

example : isBlank " \t\u00a0\u3000" = true ∧ isBlank "\u200b" = false := by decide

end CodeGrant.Text
