import CodeGrant.Text.Utf8

/-! # What has been encoded reads back

A text's bytes read back as the text (`decode?_encode`, `decodeLossy_encode`).  The
reader is followed through one character (`piecesFrom_encodeChar`): its first byte
says how many bytes are owed and in which range the next one lies
(`first_two`, `first_three`, `first_four`), and each byte that is owed adds six
bits (`piecesFrom_next`, `piecesFrom_last`). -/

namespace CodeGrant.Utf8

/-! ## First bytes -/

theorem first_one {n : Nat} (h : n ≤ 0x7F) :
    first (UInt8.ofNat n) = ([some (Char.ofNat n)], none) := by
  have hn : (UInt8.ofNat n).toNat = n := by rw [UInt8.toNat_ofNat', Nat.mod_eq_of_lt (by omega)]
  have hle : UInt8.ofNat n ≤ 0x7F := by
    rw [UInt8.le_iff_toNat_le, hn]
    exact h
  rw [first, if_pos hle, hn]

theorem first_two : ∀ n < 0x20, 2 ≤ n →
    first (UInt8.ofNat (n + 0xC0)) = ([], some ⟨n, 1, 0x80, 0xBF⟩) := by decide

theorem first_three : ∀ n < 0x10, first (UInt8.ofNat (n + 0xE0)) =
    ([], some ⟨n, 2, if n = 0 then 0xA0 else 0x80, if n = 0xD then 0x9F else 0xBF⟩) := by decide

theorem first_four : ∀ n ≤ 4, first (UInt8.ofNat (n + 0xF0)) =
    ([], some ⟨n, 3, if n = 0 then 0x90 else 0x80, if n = 4 then 0x8F else 0xBF⟩) := by decide

/-! ## Bytes that are owed -/

theorem step_owed {p : Pending} {n : Nat} (hl : p.least.toNat ≤ n) (hg : n ≤ p.greatest.toNat) :
    step (some p) (UInt8.ofNat n) =
      if p.owed = 1 then ([some (Char.ofNat (p.value * 64 + n % 64))], none)
      else ([], some ⟨p.value * 64 + n % 64, p.owed - 1, 0x80, 0xBF⟩) := by
  have hn : (UInt8.ofNat n).toNat = n := by
    have := p.greatest.toNat_lt
    rw [UInt8.toNat_ofNat', Nat.mod_eq_of_lt (by omega)]
  have hrange : p.least ≤ UInt8.ofNat n ∧ UInt8.ofNat n ≤ p.greatest := by
    rw [UInt8.le_iff_toNat_le, UInt8.le_iff_toNat_le, hn]
    exact ⟨hl, hg⟩
  rw [step, if_pos hrange, hn]

theorem piecesFrom_cons (p : Option Pending) (done : List (Option Char)) (b : UInt8)
    (bytes : Bytes) :
    piecesFrom p done (b :: bytes) =
      piecesFrom (step p b).2 ((step p b).1.reverse ++ done) bytes := by
  cases p <;> rfl

/-- The last byte of a character completes it. -/
theorem piecesFrom_last {value n : Nat} {least greatest : UInt8} (hl : least.toNat ≤ n)
    (hg : n ≤ greatest.toNat) (done : List (Option Char)) (bytes : Bytes) :
    piecesFrom (some ⟨value, 1, least, greatest⟩) done (UInt8.ofNat n :: bytes) =
      piecesFrom none (some (Char.ofNat (value * 64 + n % 64)) :: done) bytes := by
  rw [piecesFrom_cons, step_owed hl hg]
  rfl

/-- Any other byte of a character adds six bits to its value. -/
theorem piecesFrom_next {value owed n : Nat} {least greatest : UInt8} (hl : least.toNat ≤ n)
    (hg : n ≤ greatest.toNat) (done : List (Option Char)) (bytes : Bytes) :
    piecesFrom (some ⟨value, owed + 2, least, greatest⟩) done (UInt8.ofNat n :: bytes) =
      piecesFrom (some ⟨value * 64 + n % 64, owed + 1, 0x80, 0xBF⟩) done bytes := by
  rw [piecesFrom_cons, step_owed hl hg, if_neg (by simp)]
  rfl

/-- **The bytes of a character read as the character.**  That no character is a surrogate and none
is beyond U+10FFFF keeps the second byte in the narrower ranges. -/
theorem piecesFrom_encodeChar (done : List (Option Char)) (c : Char) (bytes : Bytes) :
    piecesFrom none done (String.utf8EncodeChar c ++ bytes)
      = piecesFrom none (some c :: done) bytes := by
  have hv : c.val.toNat < 0xD800 ∨ (0xDFFF < c.val.toNat ∧ c.val.toNat < 0x110000) := c.valid
  have hc : Char.ofNat c.val.toNat = c := Char.ofNat_toNat c
  have hfirst : ∀ b, step none b = first b := fun _ => rfl
  simp only [String.utf8EncodeChar]
  generalize c.val.toNat = v at hv hc ⊢
  -- The value decides how many bytes are written: one, two, three or four.
  split
  · rw [List.singleton_append, piecesFrom_cons, hfirst, first_one (by omega), hc]
    rfl
  split
  · rw [show v / 64 % 0x20 = v / 64 by omega]
    simp only [List.cons_append, List.nil_append]
    rw [piecesFrom_cons, hfirst, first_two (v / 64) (by omega) (by omega),
      piecesFrom_last (by simp) (by simp; omega),
      show v / 64 * 64 + (v % 0x40 + 0x80) % 64 = v by omega, hc]
    rfl
  split
  · rw [show v / 4096 % 0x10 = v / 4096 by omega]
    simp only [List.cons_append, List.nil_append]
    rw [piecesFrom_cons, hfirst, first_three (v / 4096) (by omega),
      piecesFrom_next (by split <;> simp; omega) (by split <;> simp <;> omega),
      piecesFrom_last (by simp) (by simp; omega),
      show (v / 4096 * 64 + (v / 64 % 0x40 + 0x80) % 64) * 64 + (v % 0x40 + 0x80) % 64 = v by omega,
      hc]
    rfl
  · rw [show v / 262144 % 0x08 = v / 262144 by omega]
    simp only [List.cons_append, List.nil_append]
    rw [piecesFrom_cons, hfirst, first_four (v / 262144) (by omega),
      piecesFrom_next (by split <;> simp; omega) (by split <;> simp <;> omega),
      piecesFrom_next (by simp) (by simp; omega), piecesFrom_last (by simp) (by simp; omega),
      show ((v / 262144 * 64 + (v / 4096 % 0x40 + 0x80) % 64) * 64
        + (v / 64 % 0x40 + 0x80) % 64) * 64 + (v % 0x40 + 0x80) % 64 = v by omega, hc]
    rfl

/-! ## Whole texts -/

theorem piecesFrom_encode (done : List (Option Char)) (chars : List Char) :
    piecesFrom none done (chars.flatMap String.utf8EncodeChar)
      = done.reverse ++ chars.map some := by
  induction chars generalizing done with
  | nil => simp [piecesFrom]
  | cons c chars ih =>
    rw [List.flatMap_cons, piecesFrom_encodeChar, ih]
    simp

theorem pieces_encode (text : String) : pieces (encode text) = text.toList.map some := by
  rw [pieces, encode, piecesFrom_encode, List.reverse_nil, List.nil_append]

/-- **The bytes of a text read as the text.** -/
@[simp] theorem decode?_encode (text : String) : decode? (encode text) = some text := by
  simp [decode?, pieces_encode, List.filterMap_map, Function.comp_def]

/-- **The lenient reader reads them alike.** -/
@[simp] theorem decodeLossy_encode (text : String) : decodeLossy (encode text) = text := by
  simp [decodeLossy, pieces_encode, Function.comp_def]

/-- Texts with the same bytes are equal. -/
theorem encode_injective {s t : String} (h : encode s = encode t) : s = t := by
  rw [← decodeLossy_encode s, h, decodeLossy_encode]

end CodeGrant.Utf8
