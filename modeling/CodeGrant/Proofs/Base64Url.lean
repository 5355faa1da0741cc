import Mathlib.Tactic.SplitIfs
import CodeGrant.Base64Url

/-! # Base64url reads back

What is written for bytes reads as the bytes (`Base64Url.decode?_encode`), and holds
characters of the alphabet only (`value?_isSome_of_mem_encode`). -/

namespace CodeGrant.Base64Url

theorem value?_digit : ∀ n < 64, value? (digit n) = some n := by decide

/-- What has been written already stays in front. -/
theorem encodeFrom_eq_append : ∀ (done : List Char) (bytes : Bytes),
    encodeFrom done bytes = done.reverse ++ encodeFrom [] bytes
  | _, [] => by simp [encodeFrom]
  | _, [_] => by simp [encodeFrom]
  | _, [_, _] => by simp [encodeFrom]
  | done, a :: b :: c :: bytes => by
    rw [encodeFrom, encodeFrom_eq_append _ bytes, encodeFrom, encodeFrom_eq_append [_, _, _, _] bytes]
    simp

/-- Three bytes are written as four characters. -/
theorem encodeFrom_cons (a b c : UInt8) (bytes : Bytes) :
    encodeFrom [] (a :: b :: c :: bytes) =
      digit (a.toNat / 4) :: digit (a.toNat % 4 * 16 + b.toNat / 16)
        :: digit (b.toNat % 16 * 4 + c.toNat / 64) :: digit (c.toNat % 64)
        :: encodeFrom [] bytes := by
  rw [encodeFrom, encodeFrom_eq_append]
  rfl

theorem ofNat_eq {n : Nat} {b : UInt8} (h : n = b.toNat) : UInt8.ofNat n = b := by
  rw [h, UInt8.ofNat_toNat]

/-- Four characters that are followed by others read as three bytes. -/
theorem decodeFrom_cons {v w x y : Nat} (hv : v < 64) (hw : w < 64) (hx : x < 64) (hy : y < 64)
    (done : Bytes) (chars : List Char) :
    decodeFrom done (digit v :: digit w :: digit x :: digit y :: chars) =
      decodeFrom (UInt8.ofNat (x % 4 * 64 + y) :: UInt8.ofNat (w % 16 * 16 + x / 4)
        :: UInt8.ofNat (v * 4 + w / 16) :: done) chars := by
  rw [decodeFrom, value?_digit v hv, value?_digit w hw, value?_digit x hx, value?_digit y hy]

/-- **What is written for bytes reads as the bytes.** -/
theorem decodeFrom_encodeFrom : ∀ done bytes : Bytes,
    decodeFrom done (encodeFrom [] bytes) = some (done.reverse ++ bytes)
  | done, [] => by simp [encodeFrom, decodeFrom]
  | done, [a] => by
    have ha := a.toNat_lt
    simp only [encodeFrom, List.reverse_cons, List.reverse_nil, List.nil_append, List.cons_append,
      decodeFrom, value?_digit (a.toNat / 4) (by omega), value?_digit (a.toNat % 4 * 16) (by omega)]
    rw [if_pos (by omega), ofNat_eq (b := a) (by omega)]
  | done, [a, b] => by
    have ha := a.toNat_lt
    have hb := b.toNat_lt
    simp only [encodeFrom, List.reverse_cons, List.reverse_nil, List.nil_append, List.cons_append,
      decodeFrom, value?_digit (a.toNat / 4) (by omega),
      value?_digit (a.toNat % 4 * 16 + b.toNat / 16) (by omega),
      value?_digit (b.toNat % 16 * 4) (by omega)]
    rw [if_pos (by omega), ofNat_eq (b := a) (by omega), ofNat_eq (b := b) (by omega)]
    simp
  | done, a :: b :: c :: bytes => by
    have ha := a.toNat_lt
    have hb := b.toNat_lt
    have hc := c.toNat_lt
    rw [encodeFrom_cons, decodeFrom_cons (by omega) (by omega) (by omega) (by omega),
      decodeFrom_encodeFrom _ bytes, ofNat_eq (b := c) (by omega), ofNat_eq (b := b) (by omega),
      ofNat_eq (b := a) (by omega)]
    simp

/-- **The text of bytes reads as the bytes.** -/
@[simp] theorem decode?_encode (bytes : Bytes) : decode? (encode bytes) = some bytes := by
  rw [decode?, encode, String.toList_ofList, decodeFrom_encodeFrom, List.reverse_nil,
    List.nil_append]

/-- Bytes with the same text are equal. -/
theorem encode_injective {a b : Bytes} (h : encode a = encode b) : a = b := by
  have hd := congrArg decode? h
  rwa [decode?_encode, decode?_encode, Option.some.injEq] at hd

/-! ## Characters -/

/-- The characters of the alphabet. -/
def IsAlphabetic (c : Char) : Prop := c.isAlphanum = true ∨ c = '-' ∨ c = '_'

/-- **The characters that have a value are those of the alphabet.** -/
theorem value?_isSome_iff {c : Char} : (value? c).isSome ↔ IsAlphabetic c := by
  have hdash : c = '-' ↔ c.toNat = 0x2D := by rw [← Char.toNat_inj]; rfl
  have hscore : c = '_' ↔ c.toNat = 0x5F := by rw [← Char.toNat_inj]; rfl
  have hletter : c.isAlpha = (c.isUpper || c.isLower) := rfl
  have hupper : c.isUpper = decide (c.val ≥ 0x41 ∧ c.val ≤ 0x5A) := rfl
  have hlower : c.isLower = (decide (c.val ≥ 0x61) && decide (c.val ≤ 0x7A)) := rfl
  have halnum : c.isAlphanum = true ↔ (0x41 ≤ c.toNat ∧ c.toNat ≤ 0x5A) ∨
      (0x61 ≤ c.toNat ∧ c.toNat ≤ 0x7A) ∨ (0x30 ≤ c.toNat ∧ c.toNat ≤ 0x39) := by
    simp [Char.isAlphanum, hletter, hupper, hlower, Char.isDigit, UInt32.le_iff_toNat_le, or_assoc]
  rw [IsAlphabetic, hdash, hscore, halnum]
  unfold value?
  dsimp only
  split_ifs <;> simp <;> omega

/-- A text that can be read holds characters of the alphabet only. -/
theorem value?_isSome_of_decodeFrom : ∀ {done bytes : Bytes} {chars : List Char},
    decodeFrom done chars = some bytes → ∀ c ∈ chars, (value? c).isSome
  | _, _, [], _ => by simp
  | _, _, [_], h => by simp [decodeFrom] at h
  | _, _, [c, d], h => by
    simp only [decodeFrom] at h
    split at h
    · next hc hd => simp [hc, hd]
    · cases h
  | _, _, [c, d, e], h => by
    simp only [decodeFrom] at h
    split at h
    · next hc hd he => simp [hc, hd, he]
    · cases h
  | _, _, c :: d :: e :: f :: chars, h => by
    simp only [decodeFrom] at h
    split at h
    · next hc hd he hf =>
      have ih := value?_isSome_of_decodeFrom h
      simpa [hc, hd, he, hf] using ih
    · cases h

theorem value?_isSome_of_mem_encode {bytes : Bytes} {c : Char} (h : c ∈ (encode bytes).toList) :
    (value? c).isSome :=
  value?_isSome_of_decodeFrom (decode?_encode bytes) c h

/-- **What is written for bytes holds characters of the alphabet only.** -/
theorem isAlphabetic_of_mem_encode {bytes : Bytes} {c : Char} (h : c ∈ (encode bytes).toList) :
    IsAlphabetic c :=
  value?_isSome_iff.mp (value?_isSome_of_mem_encode h)

end CodeGrant.Base64Url
