import CodeGrant.Bytes
import Mathlib.Data.List.Induction
import Mathlib.Tactic.Ring

/-! # Bytes as pieces and as numbers

What is joined with a separator is cut apart again, each part on its own
(`splitOn_append`).

A run of bytes is a number in base 256, and `ofNatWidth` writes the digits of a
number: reading what was written gives the number up to the bytes that did not fit
(`toNat_ofNatWidth`), and writing what was read gives the bytes (`ofNatWidth_toNat`).
`byteLength` bytes are enough, so a published number reads back (`toNat_ofNat`), and no fewer
are, so it has no zero byte in front (`head?_ofNat_ne`).  Without one, the number tells the
bytes (`eq_of_toNat_eq`). -/

namespace CodeGrant.Bytes

/-! ## Pieces -/

/-- **What stands before a separator and what stands after it are cut on their own.** -/
theorem splitOn_append (sep : UInt8) (front back : Bytes) :
    splitOn sep (front ++ sep :: back) = splitOn sep front ++ splitOn sep back := by
  induction front with
  | nil => exact splitOn_cons_sep sep back
  | cons b front ih =>
    by_cases hb : b = sep
    · subst hb
      rw [List.cons_append, splitOn_cons_sep, ih, splitOn_cons_sep, List.cons_append]
    · obtain ⟨piece, rest, hpieces⟩ := List.exists_cons_of_ne_nil (splitOn_ne_nil sep front)
      rw [hpieces, List.cons_append] at ih
      rw [List.cons_append, splitOn_cons_of_ne hb ih, splitOn_cons_of_ne hb hpieces,
        List.cons_append]

/-! ## Numbers that are read -/

theorem toNat_concat (bytes : Bytes) (b : UInt8) :
    toNat (bytes ++ [b]) = toNat bytes * 256 + b.toNat := by
  simp [toNat]

theorem toNat_append (front back : Bytes) :
    toNat (front ++ back) = toNat front * 256 ^ back.length + toNat back := by
  induction back using List.reverseRecOn with
  | nil => simp
  | append_singleton back b ih =>
    rw [← List.append_assoc, toNat_concat, ih, toNat_concat, List.length_append,
      List.length_singleton]
    ring

theorem toNat_cons (b : UInt8) (bytes : Bytes) :
    toNat (b :: bytes) = b.toNat * 256 ^ bytes.length + toNat bytes := by
  have h := toNat_append [b] bytes
  have hb : toNat [b] = b.toNat := by simp [toNat]
  rwa [hb] at h

/-- So many bytes write a number below that power of 256. -/
theorem toNat_lt (bytes : Bytes) : toNat bytes < 256 ^ bytes.length := by
  induction bytes using List.reverseRecOn with
  | nil => simp
  | append_singleton bytes b ih =>
    have hb : b.toNat < 256 := b.toNat_lt
    rw [toNat_concat, List.length_append, List.length_singleton, pow_succ]
    omega

/-! ## Numbers that are written -/

/-- **What is written reads as the number, up to the bytes that were cut off.** -/
theorem toNat_ofNatWidth (width n : Nat) : toNat (ofNatWidth width n) = n % 256 ^ width := by
  induction width generalizing n with
  | zero => simp [ofNatWidth, Nat.mod_one]
  | succ width ih =>
    have hdigit : (UInt8.ofNat (n % 256)).toNat = n % 256 := by simp
    rw [ofNatWidth, toNat_concat, ih, hdigit, pow_succ', Nat.mod_mul]
    ring

/-- What fits is read back. -/
theorem toNat_ofNatWidth_of_lt {width n : Nat} (h : n < 256 ^ width) :
    toNat (ofNatWidth width n) = n := by
  rw [toNat_ofNatWidth, Nat.mod_eq_of_lt h]

/-- **The number of some bytes, written in as many bytes, is the bytes.** -/
theorem ofNatWidth_toNat (bytes : Bytes) : ofNatWidth bytes.length (toNat bytes) = bytes := by
  induction bytes using List.reverseRecOn with
  | nil => rfl
  | append_singleton bytes b ih =>
    have hb : b.toNat < 256 := b.toNat_lt
    have hdiv : toNat (bytes ++ [b]) / 256 = toNat bytes := by
      rw [toNat_concat]
      omega
    have hmod : toNat (bytes ++ [b]) % 256 = b.toNat := by
      rw [toNat_concat]
      omega
    rw [List.length_append, List.length_singleton, ofNatWidth, hdiv, hmod, ih, UInt8.ofNat_toNat]

/-! ## Lengths -/

/-- A number is below the power of two of its length. -/
theorem lt_two_pow_bitLength (n : Nat) : n < 2 ^ bitLength n := by
  unfold bitLength
  by_cases hn : n = 0
  · simp [hn]
  · rw [if_neg hn]
    exact Nat.lt_log2_self

/-- A number of more than `bits` bits is at least that power of two. -/
theorem two_pow_le_of_lt_bitLength {bits n : Nat} (h : bits < bitLength n) : 2 ^ bits ≤ n := by
  unfold bitLength at h
  by_cases hn : n = 0
  · rw [if_pos hn] at h
    omega
  · rw [if_neg hn] at h
    calc 2 ^ bits ≤ 2 ^ n.log2 := Nat.pow_le_pow_right (by decide) (by omega)
      _ ≤ n := Nat.log2_self_le hn

/-- A number fits in as many bytes as it takes. -/
theorem lt_pow_byteLength (n : Nat) : n < 256 ^ byteLength n := by
  calc n < 2 ^ bitLength n := lt_two_pow_bitLength n
    _ ≤ 2 ^ (8 * byteLength n) := Nat.pow_le_pow_right (by decide) (by unfold byteLength; omega)
    _ = 256 ^ byteLength n := pow_mul 2 8 _

/-- **The bytes of a number read as the number.** -/
@[simp] theorem toNat_ofNat (n : Nat) : toNat (ofNat n) = n := by
  have h : n < 256 ^ max 1 (byteLength n) :=
    (lt_pow_byteLength n).trans_le (Nat.pow_le_pow_right (by decide) (Nat.le_max_right _ _))
  rw [ofNat, toNat_ofNatWidth_of_lt h]

/-! ## Zero bytes in front -/

/-- A number takes no more bytes than it needs. -/
theorem pow_byteLength_pred_le {n : Nat} (h : 0 < n) : 256 ^ (byteLength n - 1) ≤ n := by
  have hbits : 0 < bitLength n := by
    rw [bitLength, if_neg h.ne']
    omega
  calc 256 ^ (byteLength n - 1) = 2 ^ (8 * (byteLength n - 1)) := (pow_mul 2 8 _).symm
    _ ≤ n := two_pow_le_of_lt_bitLength (by unfold byteLength; omega)

/-- **The bytes of a positive number have no zero byte in front.** -/
theorem head?_ofNat_ne {n : Nat} (h : 0 < n) : (ofNat n).head? ≠ some 0 := by
  intro hzero
  obtain ⟨rest, hrest⟩ := List.head?_eq_some_iff.mp hzero
  have hlength : rest.length = max 1 (byteLength n) - 1 := by
    have hwidth := length_ofNatWidth (max 1 (byteLength n)) n
    rw [← ofNat, hrest, List.length_cons] at hwidth
    omega
  have hvalue : toNat rest = n := by
    rw [← toNat_ofNat n, hrest, toNat_cons, UInt8.toNat_zero, Nat.zero_mul, Nat.zero_add]
  have hlt := toNat_lt rest
  have hle := pow_byteLength_pred_le h
  rw [hvalue, hlength, show max 1 (byteLength n) - 1 = byteLength n - 1 by omega] at hlt
  omega

/-- Without a zero byte in front, so many bytes write a number of that size. -/
theorem pow_le_toNat_cons {b : UInt8} (hb : b ≠ 0) (bytes : Bytes) :
    256 ^ bytes.length ≤ toNat (b :: bytes) := by
  have hpos : 0 < b.toNat := Nat.pos_of_ne_zero fun h => hb (UInt8.toNat_inj.mp h)
  rw [toNat_cons]
  exact (Nat.le_mul_of_pos_left _ hpos).trans (Nat.le_add_right _ _)

/-- **Without zero bytes in front, the number tells the bytes.** -/
theorem eq_of_toNat_eq {a b : Bytes} (ha : a.head? ≠ some 0) (hb : b.head? ≠ some 0)
    (h : toNat a = toNat b) : a = b := by
  -- If one were shorter, it would write a smaller number.
  have hle : ∀ {a b : Bytes}, b.head? ≠ some 0 → toNat a = toNat b → b.length ≤ a.length := by
    intro a b hb h
    cases b with
    | nil => exact Nat.zero_le _
    | cons c b =>
      have hc : c ≠ 0 := fun hc => hb (congrArg some hc)
      have hlt : 256 ^ b.length < 256 ^ a.length :=
        (pow_le_toNat_cons hc b).trans_lt (h ▸ toNat_lt a)
      exact (Nat.pow_lt_pow_iff_right (by decide)).mp hlt
  have hlength : a.length = b.length := Nat.le_antisymm (hle ha h.symm) (hle hb h)
  rw [← ofNatWidth_toNat a, ← ofNatWidth_toNat b, hlength, h]

end CodeGrant.Bytes
