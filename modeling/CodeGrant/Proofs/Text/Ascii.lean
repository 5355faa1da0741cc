import CodeGrant.Proofs.Form.RoundTrip
import CodeGrant.Text.Blank

/-! # Bytes and characters of ASCII

Header fields hold bytes, of which only those that are visible, spaces or tabs are read as text
(`Ascii.IsText`).  Such bytes and their characters correspond one to one: the characters of a text
are written as its bytes (`Ascii.encode_ofList_map_char`), and the bytes of a text in ASCII are its
characters (`Ascii.map_char_encode`). -/

namespace CodeGrant.Ascii

/-- Whether a byte may stand in the text of a header field: it is visible, a space or a tab. -/
def IsText (b : UInt8) : Prop := b = 0x09 ∨ (0x20 ≤ b ∧ b ≤ 0x7E)

instance (b : UInt8) : Decidable (IsText b) := inferInstanceAs (Decidable (_ ∨ _))

/-- The character of a byte. -/
def char (b : UInt8) : Char := Char.ofNat b.toNat

theorem char_ne_semicolon (b : UInt8) : (char b != ';') = (b != 0x3B) :=
  Form.forall_byte (p := fun b => (char b != ';') = (b != 0x3B)) (by decide +kernel) b

theorem isBlankChar_char {b : UInt8} (h : IsText b) :
    Text.isBlankChar (char b) = true ↔ b = 0x20 ∨ b = 0x09 := by
  have hbyte : ∀ b : UInt8, IsText b → (Text.isBlankChar (char b) = true ↔ b = 0x20 ∨ b = 0x09) :=
    Form.forall_byte (by decide +kernel)
  exact hbyte b h

theorem utf8EncodeChar_char {b : UInt8} (h : IsText b) : String.utf8EncodeChar (char b) = [b] := by
  have hbyte : ∀ b : UInt8, IsText b → String.utf8EncodeChar (char b) = [b] :=
    Form.forall_byte (by decide +kernel)
  exact hbyte b h

/-- **The characters of some text are written as its bytes.** -/
theorem encode_ofList_map_char {bytes : Bytes} (h : ∀ b ∈ bytes, IsText b) :
    Utf8.encode (String.ofList (bytes.map char)) = bytes := by
  rw [Utf8.encode, String.toList_ofList]
  induction bytes with
  | nil => rfl
  | cons b bytes ih =>
    obtain ⟨hb, hbytes⟩ := List.forall_mem_cons.mp h
    rw [List.map_cons, List.flatMap_cons, utf8EncodeChar_char hb, ih hbytes, List.singleton_append]

/-- A character of ASCII is written as the byte of its code. -/
theorem utf8EncodeChar_of_lt {c : Char} (h : c.toNat < 0x80) :
    String.utf8EncodeChar c = [UInt8.ofNat c.toNat] := by
  have hascii : c.val.toNat ≤ 0x7F := Nat.le_of_lt_succ h
  simp only [String.utf8EncodeChar, if_pos hascii]
  rfl

theorem toNat_ofNat_toNat {c : Char} (h : c.toNat < 0x80) :
    (UInt8.ofNat c.toNat).toNat = c.toNat := by
  rw [UInt8.toNat_ofNat', Nat.mod_eq_of_lt (by omega)]

/-- The byte of an ASCII character is its number, and those of any other are beyond ASCII. -/
theorem toNat_of_mem_utf8EncodeChar {c : Char} {b : UInt8} (h : b ∈ String.utf8EncodeChar c) :
    b.toNat = c.toNat ∨ 0x80 ≤ b.toNat := by
  have hval : c.val.toNat = c.toNat := rfl
  simp only [String.utf8EncodeChar, hval] at h
  -- The number decides how many bytes are written: one, two, three or four.
  split at h
  · left
    rw [List.mem_singleton.mp h, UInt8.toNat_ofNat', Nat.mod_eq_of_lt (by omega)]
  split at h
  · simp only [List.mem_cons, List.not_mem_nil, or_false] at h
    rcases h with rfl | rfl <;> simp <;> omega
  split at h
  · simp only [List.mem_cons, List.not_mem_nil, or_false] at h
    rcases h with rfl | rfl | rfl <;> simp <;> omega
  · simp only [List.mem_cons, List.not_mem_nil, or_false] at h
    rcases h with rfl | rfl | rfl | rfl <;> simp <;> omega

/-- **The bytes of a text in ASCII are its characters.** -/
theorem map_char_encode {text : String} (h : ∀ c ∈ text.toList, c.toNat < 0x80) :
    (Utf8.encode text).map char = text.toList := by
  rw [Utf8.encode]
  generalize text.toList = chars at h ⊢
  induction chars with
  | nil => rfl
  | cons c chars ih =>
    obtain ⟨hc, hchars⟩ := List.forall_mem_cons.mp h
    rw [List.flatMap_cons, List.map_append, utf8EncodeChar_of_lt hc, List.map_singleton, char,
      toNat_ofNat_toNat hc, Char.ofNat_toNat, ih hchars, List.singleton_append]

end CodeGrant.Ascii
