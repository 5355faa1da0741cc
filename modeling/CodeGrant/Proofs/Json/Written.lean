import CodeGrant.Proofs.Json.Integer
import CodeGrant.Proofs.Json.Skip

/-! # What is written is a document

The text of a value is a document of the grammar (`Json.spells_render`): the tree of the value has
its texts in the escapes by which they are written (`Json.piecesOf`), which stand for the texts
again (`Json.contentOf_piecesOf`).  So whatever is said of documents holds of every text that is
written; the reader that skips a value comes to its end (`Json.isDocument_render`). -/

namespace CodeGrant.Json

/-! ## Texts -/

/-- A digit of an escape. -/
def hexByte (n : Nat) : UInt8 := UInt8.ofNat (Hex.digit n).toNat

theorem hex4?_hexByte : ∀ n < 0x20, hex4? 0x30 0x30 (hexByte (n / 16)) (hexByte (n % 16)) = some n := by
  decide

/-- The piece by which a character is written. -/
def Piece.ofChar (c : Char) : Piece :=
  if h : c ∉ escapedChars then .plain c h
  else if c = '"' then .short 0x22 0x22 rfl
  else if c = '\\' then .short 0x5C 0x5C rfl
  else if c = '\x08' then .short 0x62 0x08 rfl
  else if c = '\x0c' then .short 0x66 0x0C rfl
  else if c = '\n' then .short 0x6E 0x0A rfl
  else if c = '\r' then .short 0x72 0x0D rfl
  else if c = '\t' then .short 0x74 0x09 rfl
  else
    -- What is left of the escaped characters is below U+0020.
    .unit 0x30 0x30 (hexByte (c.toNat % 0x20 / 16)) (hexByte (c.toNat % 0x20 % 16))
      (c.toNat % 0x20) (hex4?_hexByte _ (Nat.mod_lt _ (by decide)))

/-- The character that a piece stands for by itself. -/
def Piece.char? : Piece → Option Char
  | plain c _ => some c
  | short _ value _ => some (Char.ofNat value.toNat)
  | unit _ _ _ _ value _ =>
    if isLowHalf value || isHighHalf value then none else some (Char.ofNat value)

theorem Piece.bytes_ofChar (c : Char) : (ofChar c).bytes = bytesOf (escape c) := by
  by_cases hc : c ∈ escapedChars
  · have hall : (escapedChars.all fun c => (ofChar c).bytes == bytesOf (escape c)) = true := by
      decide +kernel
    exact beq_iff_eq.mp (List.all_eq_true.mp hall c hc)
  · rcases escape_cases c with ⟨hself, -, -⟩ | ⟨hmem, -⟩
    · rw [ofChar, dif_pos hc, hself, bytesOf, List.flatMap_singleton, bytes]
    · exact absurd hmem hc

theorem Piece.char?_ofChar (c : Char) : (ofChar c).char? = some c := by
  by_cases hc : c ∈ escapedChars
  · have hall : (escapedChars.all fun c => (ofChar c).char? == some c) = true := by decide +kernel
    exact beq_iff_eq.mp (List.all_eq_true.mp hall c hc)
  · rw [ofChar, dif_pos hc, char?]

theorem contentFrom_cons_of_char? {piece : Piece} {c : Char} (h : piece.char? = some c)
    (pieces : List Piece) :
    contentFrom none (piece :: pieces) = (contentFrom none pieces).map (c :: ·) := by
  cases piece with
  | plain d hd =>
    obtain rfl := Option.some.inj h
    rw [contentFrom]
  | short e value he =>
    obtain rfl := Option.some.inj h
    rw [contentFrom]
  | unit d1 d2 d3 d4 value hv =>
    rw [Piece.char?] at h
    split at h
    · cases h
    · next hhalf =>
      obtain ⟨hlow, hhigh⟩ := not_or.mp (mt Bool.or_eq_true_iff.mpr hhalf)
      obtain rfl := Option.some.inj h
      rw [contentFrom, if_neg hlow, if_neg hhigh]

/-- The pieces by which a text is written. -/
def piecesOf (text : String) : List Piece := text.toList.map Piece.ofChar

/-- **The pieces by which a text is written stand for the text.** -/
@[simp] theorem contentOf_piecesOf (text : String) : contentOf (piecesOf text) = some text := by
  have hfrom : ∀ cs : List Char, contentFrom none (cs.map Piece.ofChar) = some cs := by
    intro cs
    induction cs with
    | nil => rfl
    | cons c cs ih =>
      rw [List.map_cons, contentFrom_cons_of_char? (Piece.char?_ofChar c), ih, Option.map_some]
  rw [contentOf, piecesOf, hfrom, Option.map_some, String.ofList_toList]

theorem bytes_text_piecesOf (text : String) :
    (Token.text (piecesOf text)).bytes = bytesOf (quoteChars text) := by
  have hpieces : (piecesOf text).flatMap Piece.bytes = bytesOf (text.toList.flatMap escape) := by
    rw [piecesOf, List.flatMap_map, bytesOf, List.flatMap_assoc]
    exact List.flatMap_congr fun c _ => Piece.bytes_ofChar c
  rw [Token.bytes, textRest, hpieces, quoteChars, bytesOf_cons, bytesOf_append]
  rfl

/-! ## Values -/

mutual

/-- The tree of a value as it is written. -/
def source : Json → Source
  | .null => .word .null
  | .int n => .number (.ofInt n)
  | .text s => .text (piecesOf s)
  | .list items => .list (itemSources items)
  | .object members => .object (memberSources members)

/-- The trees of list items. -/
def itemSources : List Json → List Source
  | [] => []
  | item :: items => source item :: itemSources items

/-- The names and the trees of members. -/
def memberSources : List (String × Json) → List (List Piece × Source)
  | [] => []
  | (name, value) :: members => (piecesOf name, source value) :: memberSources members

end

mutual

theorem flatMap_tokens_source (value : Json) :
    value.source.tokens.flatMap Token.bytes = bytesOf (chars value) := by
  match value with
  | .null => rfl
  | .int n => simp [source, Source.tokens, Token.bytes, Number.bytes_ofInt, chars]
  | .text s => simp [source, Source.tokens, bytes_text_piecesOf, chars]
  | .list items =>
    rw [source, Source.tokens, List.flatMap_cons, flatMap_itemTokens true items, chars, bytesOf_cons]
    rfl
  | .object members =>
    rw [source, Source.tokens, List.flatMap_cons, flatMap_memberTokens true members, chars,
      bytesOf_cons]
    rfl

theorem flatMap_itemTokens (first : Bool) (items : List Json) :
    (itemTokens first (itemSources items)).flatMap Token.bytes
      = bytesOf (if first then itemChars items else restChars items) := by
  match items with
  | [] => cases first <;> rfl
  | item :: items =>
    have hitem := flatMap_tokens_source item
    have hrest := flatMap_itemTokens false items
    rw [if_neg (by decide)] at hrest
    rw [itemSources, itemTokens, List.flatMap_append, List.flatMap_append, hitem, hrest, itemChars,
      restChars]
    cases first
    · rw [if_neg (by decide), bytesOf_cons, bytesOf_append]
      rfl
    · rw [if_pos rfl, bytesOf_append]
      rfl

theorem flatMap_memberTokens (first : Bool) (members : List (String × Json)) :
    (memberTokens first (memberSources members)).flatMap Token.bytes
      = bytesOf (if first then memberChars members else restMemberChars members) := by
  match members with
  | [] => cases first <;> rfl
  | (name, value) :: members =>
    have hvalue := flatMap_tokens_source value
    have hrest := flatMap_memberTokens false members
    rw [if_neg (by decide)] at hrest
    rw [memberSources, memberTokens, List.flatMap_append, List.flatMap_cons, List.flatMap_cons,
      List.flatMap_append, bytes_text_piecesOf, hvalue, hrest, memberChars, restMemberChars]
    cases first
    · rw [if_neg (by decide), bytesOf_cons, bytesOf_append, bytesOf_cons, bytesOf_append]
      rfl
    · rw [if_pos rfl, bytesOf_append, bytesOf_cons, bytesOf_append]
      rfl

end

/-- **What is written is a document**, without any blanks. -/
theorem spells_render (spaced : Bool) (value : Json) :
    Spells spaced value.source.tokens (Utf8.encode value.render) := by
  rw [encode_eq_bytesOf, toList_render, ← flatMap_tokens_source]
  exact spells_flatMap_bytes _

/-- **What is written can be skipped to its end.** -/
theorem isDocument_render (value : Json) : IsDocument value.render := by
  have hspells := spells_render false value
  have hsteps : 2 * value.source.tokens.length ≤ 2 * (Utf8.encode value.render).length + 1 := by
    have hlength := hspells.length_le
    omega
  rw [← List.append_nil value.source.tokens] at hspells
  obtain ⟨rest, hrest, hskip⟩ := exists_skipValue_eq hsteps .nil hspells
  rw [IsDocument, hskip, hrest.eq_nil]

end CodeGrant.Json
