import Mathlib.Data.List.Basic
import Mathlib.Tactic.SplitIfs
import CodeGrant.Form
import CodeGrant.Proofs.Bytes
import CodeGrant.Proofs.Text.Utf8

/-! # Parameters survive encoding

Writing parameters and reading them back gives the same names and values in the
same order, whatever characters they hold (`Form.decode_encode`).

A byte is written as one or three ASCII bytes (`writeByte`), none of them a
separator, so cutting at `&` and at the first `=` undoes the joining.  Reading turns
plus signs into spaces before it looks at percent signs.  A plus sign of the text
itself was written with a percent sign, so the reading undoes the writing byte by
byte (`percentDecodeFrom_writeByte`). -/

namespace CodeGrant.Form

/-! ## One byte -/

/-- The byte of a capital hexadecimal digit. -/
def digitByte (n : Nat) : UInt8 := UInt8.ofNat (Hex.capitalDigit n).toNat

/-- The bytes that a byte is written as. -/
def writeByte (b : UInt8) : Bytes :=
  if isPlain b then [b]
  else if b = 0x20 then [0x2B]
  else [0x25, digitByte (b.toNat / 16), digitByte (b.toNat % 16)]

theorem forall_byte {p : UInt8 → Prop} (h : ∀ n < 256, p (UInt8.ofNat n)) (b : UInt8) : p b := by
  have hb := h b.toNat b.toNat_lt
  rwa [UInt8.ofNat_toNat] at hb

theorem encode_encodeByte (b : UInt8) :
    (encodeByte b).flatMap String.utf8EncodeChar = writeByte b :=
  forall_byte (p := fun b => (encodeByte b).flatMap String.utf8EncodeChar = writeByte b)
    (by decide +kernel) b

/-- No separator is written for a byte. -/
theorem ne_separator_of_mem_writeByte {b c : UInt8} (h : c ∈ writeByte b) : c ≠ 0x26 ∧ c ≠ 0x3D := by
  have hbyte : ∀ b : UInt8, ((writeByte b).all fun c => c != 0x26 && c != 0x3D) = true :=
    forall_byte (by decide +kernel)
  have hc := List.all_eq_true.mp (hbyte b) c h
  rw [Bool.and_eq_true, bne_iff_ne, bne_iff_ne] at hc
  exact hc

theorem digitByte_ne_plus : ∀ n < 16, digitByte n ≠ 0x2B := by decide

theorem value?_digitByte : ∀ n < 16, Hex.value? (digitByte n).toNat = some n := by decide

/-- A byte that is no percent sign stands for itself. -/
theorem percentDecodeFrom_cons {b : UInt8} (h : b ≠ 0x25) (done bytes : Bytes) :
    percentDecodeFrom done (b :: bytes) = percentDecodeFrom (b :: done) bytes := by
  match bytes with
  | [] => rfl
  | [_] => rfl
  | c :: d :: bytes => simp [percentDecodeFrom, h]

/-- A percent sign and two digits stand for one byte. -/
theorem percentDecodeFrom_digits {high low : Nat} (hh : high < 16) (hl : low < 16)
    (done bytes : Bytes) :
    percentDecodeFrom done (0x25 :: digitByte high :: digitByte low :: bytes) =
      percentDecodeFrom (UInt8.ofNat (high * 16 + low) :: done) bytes := by
  simp [percentDecodeFrom, value?_digitByte high hh, value?_digitByte low hl]

/-- **What is written for a byte reads as the byte.** -/
theorem percentDecodeFrom_writeByte (b : UInt8) (done bytes : Bytes) :
    percentDecodeFrom done ((writeByte b).map plusToSpace ++ bytes)
      = percentDecodeFrom (b :: done) bytes := by
  rw [writeByte]
  split
  · next hplain =>
    -- What is written as itself is no plus sign, which would read as a space.
    have hne : b ≠ 0x2B ∧ b ≠ 0x25 := by
      constructor <;> (rintro rfl; revert hplain; decide)
    rw [List.map_singleton, plusToSpace, if_neg hne.1]
    exact percentDecodeFrom_cons hne.2 done bytes
  split
  · next hspace =>
    subst hspace
    exact percentDecodeFrom_cons (by decide) done bytes
  · have hb := b.toNat_lt
    have hhigh : b.toNat / 16 < 16 := by omega
    have hlow : b.toNat % 16 < 16 := by omega
    have hsum : b.toNat / 16 * 16 + b.toNat % 16 = b.toNat := by omega
    simp only [List.map_cons, List.map_nil, plusToSpace, digitByte_ne_plus _ hhigh,
      digitByte_ne_plus _ hlow, if_false, List.cons_append, List.nil_append]
    rw [if_neg (by decide), percentDecodeFrom_digits hhigh hlow, hsum, UInt8.ofNat_toNat]

/-! ## Names and values -/

theorem percentDecodeFrom_flatMap_writeByte (text done : Bytes) :
    percentDecodeFrom done ((text.flatMap writeByte).map plusToSpace) = done.reverse ++ text := by
  induction text generalizing done with
  | nil => simp [percentDecodeFrom]
  | cons b text ih =>
    rw [List.flatMap_cons, List.map_append, percentDecodeFrom_writeByte, ih]
    simp

/-- The bytes of a name or a value as it is written. -/
theorem encode_encodeText (text : String) :
    Utf8.encode (encodeText text) = (Utf8.encode text).flatMap writeByte := by
  rw [Utf8.encode, encodeText, String.toList_ofList, List.flatMap_assoc]
  exact congrArg (List.flatMap · (Utf8.encode text)) (funext encode_encodeByte)

/-- The characters that a name or a value is written with. -/
def writtenChars : List Char :=
  "ABCDEFGHIJKLMNOPQRSTUVWXYZabcdefghijklmnopqrstuvwxyz0123456789*._+%-".toList

/-- Plain bytes, a plus sign, a percent sign and capital digits are written with these characters. -/
theorem mem_writtenChars : (∀ n < 256, isPlain (UInt8.ofNat n) = true →
      Char.ofNat (UInt8.ofNat n).toNat ∈ writtenChars) ∧
    '+' ∈ writtenChars ∧ '%' ∈ writtenChars ∧ ∀ n < 16, Hex.capitalDigit n ∈ writtenChars := by
  decide +kernel

theorem mem_writtenChars_of_mem_encodeByte {b : UInt8} {c : Char} (h : c ∈ encodeByte b) :
    c ∈ writtenChars := by
  obtain ⟨hplain, hplus, hpercent, hdigit⟩ := mem_writtenChars
  rw [encodeByte] at h
  split at h
  · next hb =>
    rw [List.mem_singleton.mp h]
    exact forall_byte (p := fun b => isPlain b = true → Char.ofNat b.toNat ∈ writtenChars) hplain b hb
  split at h
  · rw [List.mem_singleton.mp h]
    exact hplus
  · have hb := b.toNat_lt
    simp only [List.mem_cons, List.not_mem_nil, or_false] at h
    rcases h with rfl | rfl | rfl
    · exact hpercent
    · exact hdigit _ (by omega)
    · exact hdigit _ (by omega)

theorem mem_writtenChars_of_mem_encodeText {text : String} {c : Char}
    (h : c ∈ (encodeText text).toList) : c ∈ writtenChars := by
  rw [encodeText, String.toList_ofList] at h
  obtain ⟨b, -, hb⟩ := List.mem_flatMap.mp h
  exact mem_writtenChars_of_mem_encodeByte hb

/-- **A name or a value reads as it was before it was written.** -/
theorem decodeText_encodeText (text : String) :
    decodeText (Utf8.encode (encodeText text)) = text := by
  rw [decodeText, encode_encodeText, percentDecodeFrom_flatMap_writeByte]
  simp

theorem ne_separator_of_mem_encodeText {text : String} {b : UInt8}
    (h : b ∈ Utf8.encode (encodeText text)) : b ≠ 0x26 ∧ b ≠ 0x3D := by
  rw [encode_encodeText] at h
  obtain ⟨c, -, hc⟩ := List.mem_flatMap.mp h
  exact ne_separator_of_mem_writeByte hc

/-! ## Pairs -/

theorem encode_equals : Utf8.encode "=" = [0x3D] := by decide

theorem encode_amp : Utf8.encode "&" = [0x26] := by decide

theorem encode_append_amp (front back : String) :
    Utf8.encode (front ++ "&" ++ back) = Utf8.encode front ++ 0x26 :: Utf8.encode back := by
  rw [Utf8.encode_append, Utf8.encode_append, List.append_assoc, encode_amp, List.singleton_append]

theorem encode_encodePair (pair : String × String) :
    Utf8.encode (encodePair pair)
      = Utf8.encode (encodeText pair.1) ++ 0x3D :: Utf8.encode (encodeText pair.2) := by
  rw [encodePair, Utf8.encode_append, Utf8.encode_append, List.append_assoc, encode_equals,
    List.singleton_append]

/-- **A pair reads as it was before it was written.** -/
theorem decodePair_encodePair (pair : String × String) :
    decodePair (Utf8.encode (encodePair pair)) = pair := by
  have hname : 0x3D ∉ Utf8.encode (encodeText pair.1) :=
    fun h => (ne_separator_of_mem_encodeText h).2 rfl
  rw [decodePair, encode_encodePair, Bytes.cut_append_sep hname]
  simp only [decodeText_encodeText]

theorem amp_notMem_encodePair (pair : String × String) :
    0x26 ∉ Utf8.encode (encodePair pair) := by
  rw [encode_encodePair]
  intro h
  rcases List.mem_append.mp h with h | h
  · exact (ne_separator_of_mem_encodeText h).1 rfl
  rcases List.mem_cons.mp h with h | h
  · exact absurd h (by decide)
  · exact (ne_separator_of_mem_encodeText h).1 rfl

theorem encodePair_ne_nil (pair : String × String) : Utf8.encode (encodePair pair) ≠ [] := by
  rw [encode_encodePair]
  exact List.append_ne_nil_of_right_ne_nil _ (List.cons_ne_nil _ _)

/-! ## Lengths -/

theorem length_writeByte_le (b : UInt8) : (writeByte b).length ≤ 3 := by
  rw [writeByte]
  split_ifs <;> simp

/-- A name or a value gets at most three times as long. -/
theorem length_encode_encodeText_le (text : String) :
    (Utf8.encode (encodeText text)).length ≤ 3 * (Utf8.encode text).length := by
  rw [encode_encodeText]
  induction Utf8.encode text with
  | nil => exact Nat.zero_le _
  | cons b bytes ih =>
    have hb := length_writeByte_le b
    rw [List.flatMap_cons, List.length_append, List.length_cons]
    omega

/-! ## Lists of pairs -/

theorem encode_encode_cons (pair next : String × String) (params : Params) :
    Utf8.encode (encode (pair :: next :: params))
      = Utf8.encode (encodePair pair) ++ 0x26 :: Utf8.encode (encode (next :: params)) := by
  simp only [encode, List.map_cons]
  rw [String.intercalate_cons_cons, encode_append_amp]

/-- Parameters get at most three times as long as their names and values, but for two separators
each. -/
theorem length_encode_le (params : Params) : (Utf8.encode (encode params)).length ≤
    (params.map fun pair =>
      3 * (Utf8.encode pair.1).length + 3 * (Utf8.encode pair.2).length + 2).sum := by
  have hpair (pair : String × String) : (Utf8.encode (encodePair pair)).length ≤
      3 * (Utf8.encode pair.1).length + 3 * (Utf8.encode pair.2).length + 1 := by
    have hname := length_encode_encodeText_le pair.1
    have hvalue := length_encode_encodeText_le pair.2
    rw [encode_encodePair, List.length_append, List.length_cons]
    omega
  induction params with
  | nil => exact Nat.zero_le _
  | cons pair params ih =>
    have hfirst := hpair pair
    cases params with
    | nil =>
      rw [encode, List.map_singleton, String.intercalate_singleton, List.map_singleton,
        List.sum_singleton]
      omega
    | cons next params =>
      rw [encode_encode_cons, List.map_cons, List.sum_cons, List.length_append, List.length_cons]
      omega

/-- **What stands before an ampersand and what stands after it are read on their own.** -/
theorem decode_append (front back : Bytes) :
    decode (front ++ 0x26 :: back) = decode front ++ decode back := by
  rw [decode, Bytes.splitOn_append, List.filter_append, List.map_append]
  rfl

/-- Cutting at `&` undoes the joining. -/
theorem splitOn_encode (pair : String × String) (params : Params) :
    Bytes.splitOn 0x26 (Utf8.encode (encode (pair :: params)))
      = (pair :: params).map fun p => Utf8.encode (encodePair p) := by
  induction params generalizing pair with
  | nil =>
    rw [encode, List.map_singleton, String.intercalate_singleton]
    exact Bytes.splitOn_of_notMem (amp_notMem_encodePair pair)
  | cons next params ih =>
    rw [encode_encode_cons, Bytes.splitOn_append_sep (amp_notMem_encodePair pair), ih]
    rfl

/-- **Parameters read as they were before they were written**, in the same order and with every
repetition. -/
@[simp] theorem decode_encode (params : Params) : decode (Utf8.encode (encode params)) = params := by
  cases params with
  | nil => rfl
  | cons pair params =>
    -- No pair is written as nothing, so reading skips none.
    have hfull : ∀ bytes ∈ (pair :: params).map fun p => Utf8.encode (encodePair p),
        (bytes != []) = true := by
      intro bytes hb
      obtain ⟨p, -, rfl⟩ := List.mem_map.mp hb
      exact bne_iff_ne.mpr (encodePair_ne_nil p)
    rw [decode, splitOn_encode, List.filter_eq_self.mpr hfull, List.map_map]
    exact (List.map_congr_left fun p _ => decodePair_encodePair p).trans (List.map_id _)

end CodeGrant.Form
