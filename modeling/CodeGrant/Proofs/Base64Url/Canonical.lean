import CodeGrant.Proofs.Base64Url
import Mathlib.Tactic.Ring

/-! # One text for the same bytes

Bytes are written in base64url in one way only.  The reader accepts nothing but what is written for
the bytes that it finds (`Base64Url.decode?_eq_some_iff`).  The same is said without it, bit by bit:
the characters of a text stand for six bits each, the bits of the bytes come first, and what is left
over is less than a character and all zero (`Base64Url.Writes`).  That holds of what is written for
the bytes and of no other text (`Base64Url.writes_iff`). -/

namespace CodeGrant.Base64Url

/-! ## The reader accepts what is written -/

/-- A character is written for its value. -/
theorem digit_of_value? {c : Char} {v : Nat} (h : value? c = some v) : v < 64 ∧ digit v = c := by
  have hc : Char.ofNat c.toNat = c := Char.ofNat_toNat c
  unfold value? at h
  dsimp only at h
  split_ifs at h with hupper hlower hdigit hdash hscore <;> obtain rfl := Option.some.inj h
  · refine ⟨by omega, ?_⟩
    rw [digit, if_pos (by omega), Nat.add_sub_cancel' hupper.1, hc]
  · refine ⟨by omega, ?_⟩
    rw [digit, if_neg (by omega), if_pos (by omega), Nat.add_sub_cancel, Nat.add_sub_cancel' hlower.1,
      hc]
  · refine ⟨by omega, ?_⟩
    rw [digit, if_neg (by omega), if_neg (by omega), if_pos (by omega), Nat.add_sub_cancel,
      Nat.add_sub_cancel' hdigit.1, hc]
  · exact ⟨by decide, Char.toNat_inj.mp hdash.symm⟩
  · exact ⟨by decide, Char.toNat_inj.mp hscore.symm⟩

theorem toNat_ofNat_of_lt {n : Nat} (h : n < 256) : (UInt8.ofNat n).toNat = n := by
  rw [UInt8.toNat_ofNat', Nat.mod_eq_of_lt h]

/-- **What is read was written for the bytes that are found.** -/
theorem exists_encodeFrom_of_decodeFrom : ∀ {done bytes : Bytes} {chars : List Char},
    decodeFrom done chars = some bytes →
      ∃ rest, bytes = done.reverse ++ rest ∧ encodeFrom [] rest = chars
  | done, bytes, [], h => ⟨[], by simpa [decodeFrom] using h.symm, rfl⟩
  | _, _, [_], h => by simp [decodeFrom] at h
  | done, bytes, [c, d], h => by
    simp only [decodeFrom] at h
    split at h
    · next v w hc hd =>
      obtain ⟨hv, rfl⟩ := digit_of_value? hc
      obtain ⟨hw, rfl⟩ := digit_of_value? hd
      obtain ⟨hunused, hbytes⟩ := Option.ite_none_right_eq_some.mp h
      refine ⟨[UInt8.ofNat (v * 4 + w / 16)], by simpa using (Option.some.inj hbytes).symm, ?_⟩
      have ha := toNat_ofNat_of_lt (n := v * 4 + w / 16) (by omega)
      simp only [encodeFrom, ha, List.reverse_cons, List.reverse_nil, List.nil_append,
        List.cons_append]
      congr <;> omega
    · cases h
  | done, bytes, [c, d, e], h => by
    simp only [decodeFrom] at h
    split at h
    · next v w x hc hd he =>
      obtain ⟨hv, rfl⟩ := digit_of_value? hc
      obtain ⟨hw, rfl⟩ := digit_of_value? hd
      obtain ⟨hx, rfl⟩ := digit_of_value? he
      obtain ⟨hunused, hbytes⟩ := Option.ite_none_right_eq_some.mp h
      refine ⟨[UInt8.ofNat (v * 4 + w / 16), UInt8.ofNat (w % 16 * 16 + x / 4)],
        by simpa using (Option.some.inj hbytes).symm, ?_⟩
      have ha := toNat_ofNat_of_lt (n := v * 4 + w / 16) (by omega)
      have hb := toNat_ofNat_of_lt (n := w % 16 * 16 + x / 4) (by omega)
      simp only [encodeFrom, ha, hb, List.reverse_cons, List.reverse_nil, List.nil_append,
        List.cons_append]
      congr <;> omega
    · cases h
  | done, bytes, c :: d :: e :: f :: chars, h => by
    simp only [decodeFrom] at h
    split at h
    · next v w x y hc hd he hf =>
      obtain ⟨hv, rfl⟩ := digit_of_value? hc
      obtain ⟨hw, rfl⟩ := digit_of_value? hd
      obtain ⟨hx, rfl⟩ := digit_of_value? he
      obtain ⟨hy, rfl⟩ := digit_of_value? hf
      obtain ⟨rest, hbytes, hrest⟩ := exists_encodeFrom_of_decodeFrom h
      refine ⟨UInt8.ofNat (v * 4 + w / 16) :: UInt8.ofNat (w % 16 * 16 + x / 4)
        :: UInt8.ofNat (x % 4 * 64 + y) :: rest, by simpa using hbytes, ?_⟩
      rw [encodeFrom_cons, toNat_ofNat_of_lt (by omega), toNat_ofNat_of_lt (by omega),
        toNat_ofNat_of_lt (by omega), hrest]
      congr <;> omega
    · cases h

/-- **A text is read as some bytes exactly if it is what is written for them.** -/
theorem decode?_eq_some_iff {text : String} {bytes : Bytes} :
    decode? text = some bytes ↔ encode bytes = text := by
  constructor
  · intro h
    obtain ⟨rest, hbytes, hrest⟩ := exists_encodeFrom_of_decodeFrom h
    rw [List.reverse_nil, List.nil_append] at hbytes
    rw [encode, hbytes, hrest, String.ofList_toList]
  · rintro rfl
    exact decode?_encode bytes

/-! ## Bits -/

/-- The lowest bits of a number, the highest of them first. -/
def bits : Nat → Nat → List Bool
  | 0, _ => []
  | width + 1, n => bits width (n / 2) ++ [n % 2 == 1]

@[simp] theorem length_bits (width n : Nat) : (bits width n).length = width := by
  induction width generalizing n with
  | zero => rfl
  | succ width ih => rw [bits, List.length_append, ih, List.length_singleton]

/-- The bits of a number are those of its high part and then those of its low part. -/
theorem bits_add {n : Nat} (width low high rest : Nat) (hrest : rest < 2 ^ low)
    (h : high * 2 ^ low + rest = n) : bits (width + low) n = bits width high ++ bits low rest := by
  induction low generalizing n rest with
  | zero =>
    obtain rfl : rest = 0 := by simpa using hrest
    rw [Nat.pow_zero, Nat.mul_one, Nat.add_zero] at h
    rw [h, bits, List.append_nil, Nat.add_zero]
  | succ low ih =>
    rw [Nat.pow_succ] at hrest h
    rw [← Nat.mul_assoc] at h
    have hhalf : high * 2 ^ low + rest / 2 = n / 2 := by omega
    have hbit : n % 2 = rest % 2 := by omega
    rw [← Nat.add_assoc, bits, ih (rest / 2) (by omega) hhalf, bits, hbit, List.append_assoc]

/-- Numbers with the same bits are equal. -/
theorem bits_injective {width n m : Nat} (hn : n < 2 ^ width) (hm : m < 2 ^ width)
    (h : bits width n = bits width m) : n = m := by
  induction width generalizing n m with
  | zero =>
    rw [Nat.pow_zero] at hn hm
    omega
  | succ width ih =>
    rw [Nat.pow_succ] at hn hm
    obtain ⟨hhigh, hlow⟩ := List.append_inj' h rfl
    have hhalf : n / 2 = m / 2 := ih (by omega) (by omega) hhigh
    have hbit : n % 2 = 1 ↔ m % 2 = 1 := by
      have hbits := Bool.eq_iff_iff.mp (List.singleton_inj.mp hlow)
      rwa [beq_iff_eq, beq_iff_eq] at hbits
    omega

/-- The bits of characters, six for each character of the alphabet. -/
def charBits (chars : List Char) : List Bool :=
  chars.flatMap fun c => (value? c).elim [] (bits 6)

/-- The bits of bytes. -/
def byteBits (bytes : Bytes) : List Bool := bytes.flatMap fun b => bits 8 b.toNat

theorem charBits_cons {c : Char} {v : Nat} (h : value? c = some v) (chars : List Char) :
    charBits (c :: chars) = bits 6 v ++ charBits chars := by
  rw [charBits, List.flatMap_cons, h]
  rfl

theorem charBits_digit {n : Nat} (h : n < 64) (chars : List Char) :
    charBits (digit n :: chars) = bits 6 n ++ charBits chars :=
  charBits_cons (value?_digit n h) chars

theorem byteBits_cons (b : UInt8) (bytes : Bytes) :
    byteBits (b :: bytes) = bits 8 b.toNat ++ byteBits bytes := List.flatMap_cons

theorem length_charBits {chars : List Char} (h : ∀ c ∈ chars, IsAlphabetic c) :
    (charBits chars).length = 6 * chars.length := by
  induction chars with
  | nil => rfl
  | cons c chars ih =>
    obtain ⟨hc, hchars⟩ := List.forall_mem_cons.mp h
    obtain ⟨v, hv⟩ := Option.isSome_iff_exists.mp (value?_isSome_iff.mpr hc)
    rw [charBits_cons hv, List.length_append, length_bits, ih hchars, List.length_cons]
    omega

theorem length_byteBits (bytes : Bytes) : (byteBits bytes).length = 8 * bytes.length := by
  induction bytes with
  | nil => rfl
  | cons b bytes ih =>
    rw [byteBits_cons, List.length_append, length_bits, ih, List.length_cons]
    omega

/-- Every bit of the characters is one of the bytes or is left over. -/
theorem length_of_charBits_eq {chars : List Char} {bytes : Bytes} {unused : List Bool}
    (h : ∀ c ∈ chars, IsAlphabetic c) (hbits : charBits chars = byteBits bytes ++ unused) :
    6 * chars.length = 8 * bytes.length + unused.length := by
  rw [← length_charBits h, hbits, List.length_append, length_byteBits]

/-- Characters of the alphabet with the same bits are the same. -/
theorem charBits_injective {chars others : List Char} (h : ∀ c ∈ chars, IsAlphabetic c)
    (h' : ∀ c ∈ others, IsAlphabetic c) (hbits : charBits chars = charBits others) :
    chars = others := by
  induction chars generalizing others with
  | nil =>
    have hlength := congrArg List.length hbits
    rw [length_charBits h, length_charBits h', List.length_nil] at hlength
    exact (List.length_eq_zero_iff.mp (by omega)).symm
  | cons c chars ih =>
    cases others with
    | nil =>
      have hlength := congrArg List.length hbits
      rw [length_charBits h, length_charBits h', List.length_cons, List.length_nil] at hlength
      omega
    | cons d others =>
      obtain ⟨hc, hchars⟩ := List.forall_mem_cons.mp h
      obtain ⟨hd, hothers⟩ := List.forall_mem_cons.mp h'
      obtain ⟨v, hv⟩ := Option.isSome_iff_exists.mp (value?_isSome_iff.mpr hc)
      obtain ⟨w, hw⟩ := Option.isSome_iff_exists.mp (value?_isSome_iff.mpr hd)
      rw [charBits_cons hv, charBits_cons hw] at hbits
      obtain ⟨hfirst, hrest⟩ := List.append_inj hbits (by rw [length_bits, length_bits])
      obtain ⟨hvlt, hvc⟩ := digit_of_value? hv
      obtain ⟨hwlt, hwd⟩ := digit_of_value? hw
      rw [← hvc, ← hwd, bits_injective hvlt hwlt hfirst, ih hchars hothers hrest]

/-! ## What is written for bytes -/

/-- The bits of a text begin with those of the bytes, and less than a character is left over. -/
def DecodesTo (text : String) (bytes : Bytes) : Prop :=
  ∃ unused, charBits text.toList = byteBits bytes ++ unused ∧ unused.length < 6

/-- A text is written for bytes: it holds characters of the alphabet only, its bits begin with those
of the bytes, and what is left over is less than a character and all zero. -/
structure Writes (text : String) (bytes : Bytes) : Prop where
  alphabet : ∀ c ∈ text.toList, IsAlphabetic c
  bits : ∃ unused, charBits text.toList = byteBits bytes ++ unused ∧ unused.length < 6 ∧
    ∀ b ∈ unused, b = false

/-- A byte fills the character that it starts with, and leaves two bits for the next. -/
theorem bits_first (a : UInt8) :
    bits 8 a.toNat = bits 6 (a.toNat / 4) ++ bits 2 (a.toNat % 4) :=
  bits_add 6 2 _ _ (by omega) (by omega)

/-- The second of three bytes is shared evenly between two characters. -/
theorem bits_second (b : UInt8) :
    bits 8 b.toNat = bits 4 (b.toNat / 16) ++ bits 4 (b.toNat % 16) :=
  bits_add 4 4 _ _ (by omega) (by omega)

/-- The third fills the character that it ends with. -/
theorem bits_third (c : UInt8) :
    bits 8 c.toNat = bits 2 (c.toNat / 64) ++ bits 6 (c.toNat % 64) :=
  bits_add 2 6 _ _ (by omega) (by omega)

/-- **What is written for bytes has their bits.**  A byte ends within the character in which the next
one starts, so three bytes fill four characters. -/
theorem exists_charBits_encodeFrom : ∀ bytes : Bytes, ∃ unused,
    charBits (encodeFrom [] bytes) = byteBits bytes ++ unused ∧ unused.length < 6 ∧
      ∀ b ∈ unused, b = false
  | [] => ⟨[], rfl, by decide, nofun⟩
  | [a] => by
    have ha := a.toNat_lt
    have hlast : bits 6 (a.toNat % 4 * 16) = bits 2 (a.toNat % 4) ++ bits 4 0 :=
      bits_add 2 4 _ _ (by decide) rfl
    refine ⟨bits 4 0, ?_, by decide, by decide⟩
    simp only [encodeFrom, List.reverse_cons, List.reverse_nil, List.nil_append, List.cons_append]
    rw [charBits_digit (by omega), charBits_digit (by omega), hlast, byteBits_cons, bits_first]
    simp [charBits, byteBits]
  | [a, b] => by
    have ha := a.toNat_lt
    have hb := b.toNat_lt
    have hmiddle : bits 6 (a.toNat % 4 * 16 + b.toNat / 16)
        = bits 2 (a.toNat % 4) ++ bits 4 (b.toNat / 16) := bits_add 2 4 _ _ (by omega) rfl
    have hlast : bits 6 (b.toNat % 16 * 4) = bits 4 (b.toNat % 16) ++ bits 2 0 :=
      bits_add 4 2 _ _ (by decide) rfl
    refine ⟨bits 2 0, ?_, by decide, by decide⟩
    simp only [encodeFrom, List.reverse_cons, List.reverse_nil, List.nil_append, List.cons_append]
    rw [charBits_digit (by omega), charBits_digit (by omega), charBits_digit (by omega), hmiddle,
      hlast, byteBits_cons, byteBits_cons, bits_first, bits_second]
    simp [charBits, byteBits]
  | a :: b :: c :: bytes => by
    have ha := a.toNat_lt
    have hb := b.toNat_lt
    have hc := c.toNat_lt
    have hmiddle : bits 6 (a.toNat % 4 * 16 + b.toNat / 16)
        = bits 2 (a.toNat % 4) ++ bits 4 (b.toNat / 16) := bits_add 2 4 _ _ (by omega) rfl
    have hmiddle' : bits 6 (b.toNat % 16 * 4 + c.toNat / 64)
        = bits 4 (b.toNat % 16) ++ bits 2 (c.toNat / 64) := bits_add 4 2 _ _ (by omega) rfl
    obtain ⟨unused, hbits, hunused⟩ := exists_charBits_encodeFrom bytes
    refine ⟨unused, ?_, hunused⟩
    rw [encodeFrom_cons, charBits_digit (by omega), charBits_digit (by omega),
      charBits_digit (by omega), charBits_digit (by omega), hbits, hmiddle, hmiddle', byteBits_cons,
      byteBits_cons, byteBits_cons, bits_first, bits_second, bits_third]
    simp

theorem writes_encode (bytes : Bytes) : Writes (encode bytes) bytes where
  alphabet _ := isAlphabetic_of_mem_encode
  bits := by
    rw [encode, String.toList_ofList]
    exact exists_charBits_encodeFrom bytes

/-- **Bytes are written in one way only.** -/
theorem Writes.unique {text other : String} {bytes : Bytes} (h : Writes text bytes)
    (h' : Writes other bytes) : text = other := by
  obtain ⟨unused, hbits, hfew, hzero⟩ := h.bits
  obtain ⟨unused', hbits', hfew', hzero'⟩ := h'.bits
  have hlength := length_of_charBits_eq h.alphabet hbits
  have hlength' := length_of_charBits_eq h'.alphabet hbits'
  have hunused : unused = unused' := by
    rw [List.eq_replicate_iff.mpr ⟨rfl, hzero⟩, List.eq_replicate_iff.mpr ⟨rfl, hzero'⟩,
      show unused.length = unused'.length by omega]
  rw [hunused, ← hbits'] at hbits
  exact String.toList_inj.mp (charBits_injective h.alphabet h'.alphabet hbits)

/-- **What is written for bytes is the one text with their bits.** -/
theorem writes_iff {text : String} {bytes : Bytes} : Writes text bytes ↔ encode bytes = text := by
  constructor
  · intro h
    exact (writes_encode bytes).unique h
  · rintro rfl
    exact writes_encode bytes

end CodeGrant.Base64Url
