import Mathlib.Data.List.TakeWhile
import CodeGrant.Json.Skip
import CodeGrant.Proofs.Json.Text
import CodeGrant.Proofs.Text.Ascii

/-! # The grammar of JSON

A document is a tree (`Json.Source`) of words, numerals, texts, lists and objects.  The tree keeps
how its leaves are written: which escapes stand in a text, and whether an exponent has a plus sign.
It says nothing of blanks.  The tree is a list of tokens (`Source.tokens`), and a byte string spells
the tokens if it writes them in order (`Json.Spells`), spaced with any blanks around them, or without
any.

What a text stands for is told by its pieces (`Json.contentOf`): an escape stands for a character,
two halves of a surrogate pair for one character together, and a half alone for none. -/

namespace CodeGrant.Json

/-- The bytes of a list of characters. -/
def bytesOf (cs : List Char) : Bytes := cs.flatMap String.utf8EncodeChar

theorem bytesOf_cons (c : Char) (cs : List Char) :
    bytesOf (c :: cs) = String.utf8EncodeChar c ++ bytesOf cs :=
  List.flatMap_cons

@[simp] theorem bytesOf_append (cs ds : List Char) : bytesOf (cs ++ ds) = bytesOf cs ++ bytesOf ds :=
  List.flatMap_append

theorem encode_eq_bytesOf (text : String) : Utf8.encode text = bytesOf text.toList := rfl

/-! ## Leaves -/

/-- A piece of a text as it stands between quotation marks. -/
inductive Piece where
  /-- A character that stands for itself. -/
  | plain (c : Char) (h : c ∉ escapedChars)
  /-- A backslash and the byte that names another one. -/
  | short (e value : UInt8) (h : shortEscape? e = some value)
  /-- A backslash, the letter `u` and four digits. -/
  | unit (d1 d2 d3 d4 : UInt8) (value : Nat) (h : hex4? d1 d2 d3 d4 = some value)

/-- A piece as it is written. -/
def Piece.bytes : Piece → Bytes
  | plain c _ => String.utf8EncodeChar c
  | short e _ _ => [0x5C, e]
  | unit d1 d2 d3 d4 _ _ => [0x5C, 0x75, d1, d2, d3, d4]

/-- The characters that pieces stand for, if they stand for any.  When the piece before was the
first half of a surrogate pair, the second half must come next. -/
def contentFrom : Option Nat → List Piece → Option (List Char)
  | none, [] => some []
  | none, .plain c _ :: pieces => (contentFrom none pieces).map (c :: ·)
  | none, .short _ value _ :: pieces =>
    (contentFrom none pieces).map (Char.ofNat value.toNat :: ·)
  | none, .unit _ _ _ _ value _ :: pieces =>
    if isLowHalf value then none
    else if isHighHalf value then contentFrom (some value) pieces
    else (contentFrom none pieces).map (Char.ofNat value :: ·)
  | some high, .unit _ _ _ _ value _ :: pieces =>
    if isLowHalf value then (contentFrom none pieces).map (pairChar high value :: ·) else none
  | some _, _ => none

/-- The text that pieces stand for. -/
def contentOf (pieces : List Piece) : Option String :=
  (contentFrom none pieces).map String.ofList

/-- Some digits. -/
structure IsDigits (ds : Bytes) : Prop where
  digits : ∀ b ∈ ds, isDigit b = true
  ne_nil : ds ≠ []

/-- The digits before the point of a numeral: a zero alone, or digits that do not start with one. -/
structure IsWhole (ds : Bytes) : Prop extends IsDigits ds where
  zero : ds = [0x30] ∨ ds.head? ≠ some 0x30

/-- The exponent of a numeral as it is written. -/
structure Exponent where
  /-- Whether the letter is a capital one. -/
  capital : Bool
  /-- The sign, if one is written; `true` for a minus. -/
  sign : Option Bool
  digits : Bytes
  isDigits : IsDigits digits

/-- The sign of an exponent, if one is written. -/
def Exponent.signBytes (exponent : Exponent) : Bytes :=
  match exponent.sign with
  | none => []
  | some false => [0x2B]
  | some true => [0x2D]

/-- An exponent as it is written. -/
def Exponent.bytes (exponent : Exponent) : Bytes :=
  (if exponent.capital then 0x45 else 0x65) :: (exponent.signBytes ++ exponent.digits)

/-- A numeral as it is written. -/
structure Number where
  negative : Bool
  whole : Bytes
  fraction : Option {ds : Bytes // IsDigits ds}
  exponent : Option Exponent
  isWhole : IsWhole whole

namespace Number

/-- The point and the digits behind it, if there is one. -/
def fractionBytes (number : Number) : Bytes :=
  match number.fraction with
  | none => []
  | some ds => 0x2E :: ds

/-- The exponent, if there is one. -/
def exponentBytes (number : Number) : Bytes :=
  match number.exponent with
  | none => []
  | some exponent => exponent.bytes

/-- A number as it is written. -/
def bytes (number : Number) : Bytes :=
  (if number.negative then [0x2D] else [])
    ++ (number.whole ++ (number.fractionBytes ++ number.exponentBytes))

/-- The parts of a number. -/
def numeral (number : Number) : Numeral where
  negative := number.negative
  whole := number.whole
  fraction := match number.fraction with
    | none => []
    | some ds => ds
  exponent := number.exponent.map fun exponent => (exponent.sign.getD false, exponent.digits)

end Number

/-- The three words of the grammar. -/
inductive Word where
  | null
  | yes
  | no
  deriving DecidableEq

/-- The first letter of a word. -/
def Word.first : Word → UInt8
  | null => 0x6E
  | yes => 0x74
  | no => 0x66

/-- The other letters of a word. -/
def Word.rest : Word → Bytes
  | null => nullRest
  | yes => trueRest
  | no => falseRest

/-! ## Tokens -/

/-- A token. -/
inductive Token where
  | opening (frame : Frame)
  | closing (frame : Frame)
  | comma
  | colon
  | word (word : Word)
  | number (number : Number)
  | text (pieces : List Piece)

/-- The byte that opens a list or an object. -/
def Frame.opening : Frame → UInt8
  | list => 0x5B
  | object => 0x7B

/-- A text between quotation marks, without the first of them. -/
def textRest (pieces : List Piece) : Bytes := pieces.flatMap Piece.bytes ++ [0x22]

/-- A token as it is written. -/
def Token.bytes : Token → Bytes
  | opening frame => [frame.opening]
  | closing frame => [frame.closing]
  | comma => [0x2C]
  | colon => [0x3A]
  | word w => w.first :: w.rest
  | number n => n.bytes
  | text pieces => 0x22 :: textRest pieces

/-- Whether a numeral may start with this byte. -/
def StartsNumeral (b : UInt8) : Prop := b = 0x2D ∨ isDigit b = true

theorem StartsNumeral.ne {b c : UInt8} (hb : StartsNumeral b) (hminus : c ≠ 0x2D)
    (hdigit : isDigit c = false) : b ≠ c := by
  rintro rfl
  rcases hb with hb | hb
  · exact hminus hb
  · rw [hb] at hdigit
    cases hdigit

theorem StartsNumeral.not_isBlank {b : UInt8} (hb : StartsNumeral b) : isBlank b = false := by
  simp [isBlank, hb.ne (c := 0x20) (by decide) rfl, hb.ne (c := 0x09) (by decide) rfl,
    hb.ne (c := 0x0A) (by decide) rfl, hb.ne (c := 0x0D) (by decide) rfl]

theorem Number.exists_bytes_eq_cons (number : Number) :
    ∃ b rest, number.bytes = b :: rest ∧ StartsNumeral b := by
  unfold bytes
  cases number.negative with
  | true => exact ⟨0x2D, _, rfl, .inl rfl⟩
  | false =>
    obtain ⟨d, ds, hds⟩ := List.exists_cons_of_ne_nil number.isWhole.ne_nil
    refine ⟨d, _, by rw [hds]; rfl, .inr (number.isWhole.digits d ?_)⟩
    rw [hds]
    exact List.mem_cons_self

/-- No token starts with a blank. -/
theorem Token.exists_bytes_eq_cons (token : Token) :
    ∃ b rest, token.bytes = b :: rest ∧ isBlank b = false := by
  cases token with
  | opening frame => exact ⟨frame.opening, [], rfl, by cases frame <;> rfl⟩
  | closing frame => exact ⟨frame.closing, [], rfl, by cases frame <;> rfl⟩
  | comma => exact ⟨0x2C, [], rfl, rfl⟩
  | colon => exact ⟨0x3A, [], rfl, rfl⟩
  | word w => exact ⟨w.first, w.rest, rfl, by cases w <;> rfl⟩
  | number n =>
    obtain ⟨b, rest, hbytes, hb⟩ := n.exists_bytes_eq_cons
    exact ⟨b, rest, hbytes, hb.not_isBlank⟩
  | text pieces => exact ⟨0x22, textRest pieces, rfl, rfl⟩

/-! ## Trees -/

/-- A value as it is written, but for the blanks. -/
inductive Source where
  | word (word : Word)
  | number (number : Number)
  | text (pieces : List Piece)
  | list (items : List Source)
  | object (members : List (List Piece × Source))

/-- What stands before an item or a member that is not the first. -/
def separator (first : Bool) : List Token := if first then [] else [.comma]

mutual

/-- The tokens of a value. -/
def Source.tokens : Source → List Token
  | .word w => [.word w]
  | .number n => [.number n]
  | .text pieces => [.text pieces]
  | .list items => .opening .list :: itemTokens true items
  | .object members => .opening .object :: memberTokens true members

/-- The tokens of the items of a list, and the closing bracket. -/
def itemTokens (first : Bool) : List Source → List Token
  | [] => [.closing .list]
  | item :: items => separator first ++ (item.tokens ++ itemTokens false items)

/-- The tokens of the members of an object, and the closing brace. -/
def memberTokens (first : Bool) : List (List Piece × Source) → List Token
  | [] => [.closing .object]
  | (name, value) :: members =>
    separator first ++ (.text name :: .colon :: (value.tokens ++ memberTokens false members))

end

theorem Source.length_tokens_pos (source : Source) : 0 < source.tokens.length := by
  cases source <;> exact Nat.succ_pos _

theorem length_itemTokens_pos (first : Bool) (items : List Source) :
    0 < (itemTokens first items).length := by
  cases items with
  | nil => exact Nat.succ_pos _
  | cons item items =>
    have hpos := item.length_tokens_pos
    simp only [itemTokens, List.length_append]
    omega

/-- The bytes that a value may start with. -/
def Source.MayStart : Source → UInt8 → Prop
  | word w, b => b = w.first
  | number _, b => StartsNumeral b
  | text _, b => b = 0x22
  | list _, b => b = 0x5B
  | object _, b => b = 0x7B

/-- No value starts with what closes a list or an object. -/
theorem Source.MayStart.ne_closing {source : Source} {b : UInt8} (h : source.MayStart b)
    (frame : Frame) : b ≠ frame.closing := by
  cases source with
  | word w =>
    obtain rfl : b = w.first := h
    cases w <;> cases frame <;> decide
  | number n => cases frame <;> exact StartsNumeral.ne h (by decide) rfl
  | text pieces =>
    obtain rfl : b = 0x22 := h
    cases frame <;> decide
  | list items =>
    obtain rfl : b = 0x5B := h
    cases frame <;> decide
  | object members =>
    obtain rfl : b = 0x7B := h
    cases frame <;> decide

/-! ## Spelling -/

/-- Whether the bytes may stand between tokens: they are blanks, and if nothing is spaced there are
none. -/
def IsGap (spaced : Bool) (bytes : Bytes) : Prop := ∀ b ∈ bytes, spaced = true ∧ isBlank b = true

/-- Whether the bytes write the tokens in order, with any blanks around them if they are spaced. -/
inductive Spells (spaced : Bool) : List Token → Bytes → Prop
  | nil {gap : Bytes} (h : IsGap spaced gap) : Spells spaced [] gap
  | cons {gap bytes : Bytes} {token : Token} {tokens : List Token} (h : IsGap spaced gap)
      (hrest : Spells spaced tokens bytes) :
      Spells spaced (token :: tokens) (gap ++ (token.bytes ++ bytes))

/-- What may follow a value: the end, a comma, or what closes a list or an object. -/
inductive Follows : List Token → Prop
  | nil : Follows []
  | comma (tokens : List Token) : Follows (.comma :: tokens)
  | closing (frame : Frame) (tokens : List Token) : Follows (.closing frame :: tokens)

theorem follows_itemTokens (items : List Source) (tokens : List Token) :
    Follows (itemTokens false items ++ tokens) := by
  cases items with
  | nil =>
    rw [itemTokens]
    exact .closing _ _
  | cons item items =>
    rw [itemTokens]
    exact .comma _

theorem follows_memberTokens (members : List (List Piece × Source)) (tokens : List Token) :
    Follows (memberTokens false members ++ tokens) := by
  cases members with
  | nil =>
    rw [memberTokens]
    exact .closing _ _
  | cons member members =>
    rw [memberTokens]
    exact .comma _

/-- What may follow a value that has been written: the end, a blank, a comma, or what closes a list
or an object. -/
inductive Delimits : Bytes → Prop
  | nil : Delimits []
  | blank {b : UInt8} (h : isBlank b = true) (bytes : Bytes) : Delimits (b :: bytes)
  | comma (bytes : Bytes) : Delimits (0x2C :: bytes)
  | closing (frame : Frame) (bytes : Bytes) : Delimits (frame.closing :: bytes)

section

variable {spaced : Bool} {token : Token} {tokens : List Token} {bytes : Bytes}

theorem skipBlanks_cons {b : UInt8} (h : isBlank b = false) (bytes : Bytes) :
    skipBlanks (b :: bytes) = b :: bytes := by
  rw [skipBlanks, List.dropWhile_cons, h]
  rfl

theorem skipBlanks_append {gap : Bytes} (h : IsGap spaced gap) (bytes : Bytes) :
    skipBlanks (gap ++ bytes) = skipBlanks bytes :=
  List.dropWhile_append_of_pos fun b hb => (h b hb).2

/-- **Behind the blanks stands the first token.** -/
theorem Spells.next (h : Spells spaced (token :: tokens) bytes) :
    ∃ rest, skipBlanks bytes = token.bytes ++ rest ∧ Spells spaced tokens rest := by
  cases h with
  | cons hgap hrest =>
    refine ⟨_, ?_, hrest⟩
    obtain ⟨b, rest, hbytes, hb⟩ := token.exists_bytes_eq_cons
    rw [skipBlanks_append hgap, hbytes, List.cons_append, skipBlanks_cons hb]

/-- A token may stand without blanks in front. -/
theorem Spells.prepend (token : Token) (h : Spells spaced tokens bytes) :
    Spells spaced (token :: tokens) (token.bytes ++ bytes) := by
  have hgap : IsGap spaced [] := nofun
  exact .cons hgap h

/-- Where a value stands, a byte stands that it may start with. -/
theorem Spells.exists_start {source : Source} (h : Spells spaced (source.tokens ++ tokens) bytes) :
    ∃ b rest, skipBlanks bytes = b :: rest ∧ source.MayStart b := by
  cases source with
  | number n =>
    obtain ⟨rest, hrest, -⟩ := h.next
    obtain ⟨b, bs, hbs, hb⟩ := n.exists_bytes_eq_cons
    exact ⟨b, bs ++ rest, by rw [hrest, Token.bytes, hbs, List.cons_append], hb⟩
  | _ =>
    obtain ⟨rest, hrest, -⟩ := h.next
    exact ⟨_, _, hrest, rfl⟩

/-- Behind the last token stand only blanks. -/
theorem Spells.skipBlanks_eq_nil (h : Spells spaced [] bytes) : skipBlanks bytes = [] := by
  cases h with
  | nil hgap => exact List.dropWhile_eq_nil_iff.mpr fun b hb => (hgap b hb).2

/-- Blanks in front do not matter. -/
theorem Spells.skipBlanks (h : Spells spaced tokens bytes) :
    Spells spaced tokens (skipBlanks bytes) := by
  cases tokens with
  | nil =>
    rw [h.skipBlanks_eq_nil]
    exact .nil nofun
  | cons token tokens =>
    obtain ⟨rest, hrest, hspells⟩ := h.next
    rw [hrest]
    exact hspells.prepend token

theorem Spells.delimits (h : Spells spaced tokens bytes) (htokens : Follows tokens) :
    Delimits bytes := by
  cases h with
  | nil hgap =>
    cases bytes with
    | nil => exact .nil
    | cons b bytes => exact .blank (hgap b List.mem_cons_self).2 bytes
  | @cons gap _ _ _ hgap _ =>
    cases gap with
    | nil =>
      cases htokens with
      | comma => exact .comma _
      | closing frame => exact .closing frame _
    | cons b gap => exact .blank (hgap b List.mem_cons_self).2 _

/-- Behind the last token stands nothing if nothing is spaced. -/
theorem Spells.eq_nil (h : Spells false [] bytes) : bytes = [] := by
  cases h with
  | nil hgap => exact List.eq_nil_iff_forall_not_mem.mpr fun b hb => nomatch (hgap b hb).1

/-- Every token takes a byte at least. -/
theorem Spells.length_le (h : Spells spaced tokens bytes) : tokens.length ≤ bytes.length := by
  induction h with
  | nil => exact Nat.zero_le _
  | @cons gap bytes token tokens _ _ ih =>
    obtain ⟨b, rest, hbytes, -⟩ := token.exists_bytes_eq_cons
    simp only [hbytes, List.length_cons, List.length_append]
    omega

/-- Tokens may be written without any blanks. -/
theorem spells_flatMap_bytes (tokens : List Token) :
    Spells spaced tokens (tokens.flatMap Token.bytes) := by
  induction tokens with
  | nil => exact .nil nofun
  | cons token tokens ih =>
    rw [List.flatMap_cons]
    exact ih.prepend token

end

end CodeGrant.Json
