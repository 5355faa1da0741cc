/-! # Bytes

Requests arrive as bytes and keys are published as bytes.  Two ways of cutting a
run of bytes recur: at every occurrence of a separator (`splitOn`) and at the
first one only (`cut`).  The numbers of a key are read and written big-endian
(`ofNat`, `toNat`). -/

namespace CodeGrant

/-- A run of octets. -/
abbrev Bytes := List UInt8

namespace Bytes

/-- The pieces between the occurrences of `sep`, one more than there are occurrences. -/
def splitOn (sep : UInt8) (bytes : Bytes) : List Bytes :=
  bytes.foldr
    (fun b pieces =>
      if b = sep then [] :: pieces
      else
        match pieces with
        | [] => [[b]]
        | piece :: rest => (b :: piece) :: rest)
    [[]]

@[simp] theorem splitOn_nil (sep : UInt8) : splitOn sep [] = [[]] := rfl

@[simp] theorem splitOn_cons_sep (sep : UInt8) (bytes : Bytes) :
    splitOn sep (sep :: bytes) = [] :: splitOn sep bytes := by
  simp [splitOn]

theorem splitOn_ne_nil (sep : UInt8) (bytes : Bytes) : splitOn sep bytes ≠ [] := by
  induction bytes with
  | nil => simp
  | cons b bytes ih =>
    by_cases h : b = sep
    · subst h; simp
    · simp only [splitOn, List.foldr_cons, h, if_false] at *
      split <;> simp

theorem splitOn_cons_of_ne {sep b : UInt8} (h : b ≠ sep) {bytes piece : Bytes} {rest : List Bytes}
    (hp : splitOn sep bytes = piece :: rest) : splitOn sep (b :: bytes) = (b :: piece) :: rest := by
  simp only [splitOn] at hp ⊢
  rw [List.foldr_cons, hp, if_neg h]

/-- What holds no separator is one piece. -/
theorem splitOn_of_notMem {sep : UInt8} {bytes : Bytes} (h : sep ∉ bytes) :
    splitOn sep bytes = [bytes] := by
  induction bytes with
  | nil => rfl
  | cons b bytes ih =>
    rw [List.mem_cons, not_or] at h
    exact splitOn_cons_of_ne (Ne.symm h.1) (ih h.2)

/-- The first piece ends at the first separator. -/
theorem splitOn_append_sep {sep : UInt8} {bytes : Bytes} (h : sep ∉ bytes) (rest : Bytes) :
    splitOn sep (bytes ++ sep :: rest) = bytes :: splitOn sep rest := by
  induction bytes with
  | nil => exact splitOn_cons_sep sep rest
  | cons b bytes ih =>
    rw [List.mem_cons, not_or] at h
    exact splitOn_cons_of_ne (Ne.symm h.1) (ih h.2)

/-- What stands before the first `sep` and what stands after it; without a `sep` the second part
is empty. -/
def cut (sep : UInt8) (bytes : Bytes) : Bytes × Bytes :=
  (bytes.takeWhile (· != sep), (bytes.dropWhile (· != sep)).drop 1)

/-- The cut is made at the first separator. -/
theorem cut_append_sep {sep : UInt8} {bytes : Bytes} (h : sep ∉ bytes) (rest : Bytes) :
    cut sep (bytes ++ sep :: rest) = (bytes, rest) := by
  have hne : ∀ b ∈ bytes, (b != sep) = true := by
    intro b hb
    rw [bne_iff_ne]
    exact fun he => h (he ▸ hb)
  simp [cut, List.takeWhile_append_of_pos hne, List.dropWhile_append_of_pos hne]

/-- The number that the bytes write big-endian. -/
def toNat (bytes : Bytes) : Nat :=
  bytes.foldl (fun n b => n * 256 + b.toNat) 0

@[simp] theorem toNat_nil : toNat [] = 0 := rfl

/-- Exactly `width` bytes, big-endian; what does not fit is cut off at the front. -/
def ofNatWidth : Nat → Nat → Bytes
  | 0, _ => []
  | width + 1, n => ofNatWidth width (n / 256) ++ [UInt8.ofNat (n % 256)]

@[simp] theorem length_ofNatWidth (width n : Nat) : (ofNatWidth width n).length = width := by
  induction width generalizing n with
  | zero => rfl
  | succ width ih => simp [ofNatWidth, ih]

/-- How many bits a number takes; zero takes none. -/
def bitLength (n : Nat) : Nat := if n = 0 then 0 else n.log2 + 1

/-- How many bytes a number takes; zero takes none. -/
def byteLength (n : Nat) : Nat := (bitLength n + 7) / 8

/-- A number in as few bytes as it takes, big-endian, but in one byte at least. -/
def ofNat (n : Nat) : Bytes := ofNatWidth (max 1 (byteLength n)) n

end Bytes

end CodeGrant
