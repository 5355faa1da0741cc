import CodeGrant.Json.Shape
import CodeGrant.Proofs.Bytes
import CodeGrant.Proofs.Json.Source

/-! # Integers in JSON

An integer is written as a numeral of digits alone (`Number.ofInt`).  Its digits give back its
absolute value (`digitsValue_repr`), so a numeral of digits alone stands for one integer
(`Numeral.exactInt?`).

The reader of a number gathers its digits in sixty-four bits and refuses what is too large for a
double.  An integer of sixty-four bits is gathered completely and is not too large
(`int64?_ofInt`). -/

namespace CodeGrant.Json

/-- The number that digits write behind another number. -/
def digitsFrom (n : Nat) (ds : Bytes) : Nat := ds.foldl (fun n b => n * 10 + (b.toNat - 0x30)) n

/-- The number that digits write. -/
def digitsValue (ds : Bytes) : Nat := digitsFrom 0 ds

/-- The integer that a numeral stands for if it has neither a point nor an exponent. -/
def Numeral.exactInt? (numeral : Numeral) : Option Int :=
  match numeral.fraction, numeral.exponent with
  | [], none =>
    some (if numeral.negative then -(digitsValue numeral.whole : Int) else digitsValue numeral.whole)
  | _, _ => none

/-! ## Digits -/

theorem utf8EncodeChar_of_isDigit {c : Char} (h : c.isDigit = true) :
    ∃ b, String.utf8EncodeChar c = [b] ∧ isDigit b = true ∧ b.toNat = c.toNat := by
  obtain ⟨hlow, hhigh⟩ : 0x30 ≤ c.toNat ∧ c.toNat ≤ 0x39 := Char.isDigit_iff_toNat.mp h
  have hlt : c.toNat < 0x80 := by omega
  have hb := Ascii.toNat_ofNat_toNat hlt
  refine ⟨UInt8.ofNat c.toNat, Ascii.utf8EncodeChar_of_lt hlt, ?_, hb⟩
  simp only [isDigit, Bool.and_eq_true, decide_eq_true_eq, UInt8.le_iff_toNat_le, hb]
  exact ⟨hlow, hhigh⟩

theorem isDigit_of_mem_bytesOf {cs : List Char} (h : ∀ c ∈ cs, c.isDigit = true) {b : UInt8}
    (hb : b ∈ bytesOf cs) : isDigit b = true := by
  obtain ⟨c, hc, hbc⟩ := List.mem_flatMap.mp hb
  obtain ⟨d, hd, hdigit, -⟩ := utf8EncodeChar_of_isDigit (h c hc)
  rw [hd, List.mem_singleton] at hbc
  rw [hbc]
  exact hdigit

/-- A number has no more digits than it must have. -/
theorem exists_toDigits_eq_cons {n : Nat} (h : 0 < n) :
    ∃ c cs, Nat.toDigits 10 n = c :: cs ∧ c ≠ '0' := by
  induction n using Nat.strongRecOn with
  | ind n ih =>
    by_cases hn : n < 10
    · refine ⟨_, [], Nat.toDigits_of_lt_base hn, ?_⟩
      have hdigit : ∀ m < 10, 0 < m → m.digitChar ≠ '0' := by decide
      exact hdigit n hn h
    · obtain ⟨c, cs, hcs, hc⟩ := ih (n / 10) (by omega) (by omega)
      refine ⟨c, cs ++ [(n % 10).digitChar], ?_, hc⟩
      rw [Nat.toDigits_of_base_le (by decide) (by omega), hcs, List.cons_append]

theorem isWhole_repr (n : Nat) : IsWhole (bytesOf (Nat.repr n).toList) := by
  rw [Nat.repr, String.toList_ofList]
  have hdigits : ∀ c ∈ Nat.toDigits 10 n, c.isDigit = true := fun c hc =>
    Nat.isDigit_of_mem_toDigits (by decide) (by decide) hc
  rcases Nat.eq_zero_or_pos n with rfl | hn
  · have hzero : bytesOf (Nat.toDigits 10 0) = [0x30] := by decide
    rw [hzero]
    refine ⟨⟨fun b hb => ?_, List.cons_ne_nil _ _⟩, .inl rfl⟩
    rw [List.mem_singleton.mp hb]
    rfl
  · obtain ⟨c, cs, hcs, hc⟩ := exists_toDigits_eq_cons hn
    obtain ⟨b, hb, -, hbc⟩ := utf8EncodeChar_of_isDigit (hdigits c (hcs ▸ List.mem_cons_self))
    have hcons : bytesOf (Nat.toDigits 10 n) = b :: bytesOf cs := by
      rw [hcs, bytesOf_cons, hb, List.singleton_append]
    refine ⟨⟨fun d hd => isDigit_of_mem_bytesOf hdigits hd, ?_⟩, .inr ?_⟩
    · rw [hcons]
      exact List.cons_ne_nil _ _
    · rw [hcons, List.head?_cons]
      intro h
      rw [Option.some.inj h] at hbc
      exact hc (Char.toNat_inj.mp hbc.symm)

theorem digitsFrom_cons (n : Nat) (b : UInt8) (ds : Bytes) :
    digitsFrom n (b :: ds) = digitsFrom (n * 10 + (b.toNat - 0x30)) ds := by
  rw [digitsFrom, List.foldl_cons, digitsFrom]

theorem digitsValue_append (ds es : Bytes) :
    digitsValue (ds ++ es) = digitsFrom (digitsValue ds) es :=
  List.foldl_append

/-- More digits make no smaller number. -/
theorem le_digitsFrom (n : Nat) (ds : Bytes) : n ≤ digitsFrom n ds := by
  induction ds generalizing n with
  | nil => exact Nat.le_refl n
  | cons b ds ih =>
    have hrest := ih (n * 10 + (b.toNat - 0x30))
    rw [digitsFrom_cons]
    omega

/-- A digit that is written has its value. -/
theorem digitsValue_digitChar : ∀ m < 10, digitsValue (bytesOf [m.digitChar]) = m := by
  decide

/-- **The digits of a number write the number.** -/
theorem digitsValue_repr (n : Nat) : digitsValue (bytesOf (Nat.repr n).toList) = n := by
  rw [Nat.repr, String.toList_ofList]
  induction n using Nat.strongRecOn with
  | ind n ih =>
    by_cases hn : n < 10
    · rw [Nat.toDigits_of_lt_base hn]
      exact digitsValue_digitChar n hn
    · have hlast : n % 10 < 10 := Nat.mod_lt n (by decide)
      obtain ⟨b, hb⟩ : ∃ b, bytesOf [(n % 10).digitChar] = [b] := by
        obtain ⟨b, hb, -⟩ := utf8EncodeChar_of_isDigit (c := (n % 10).digitChar)
          (by rw [Nat.isDigit_digitChar, decide_eq_true hlast])
        exact ⟨b, by rw [bytesOf, List.flatMap_singleton, hb]⟩
      have hdigit := digitsValue_digitChar (n % 10) hlast
      rw [hb] at hdigit
      rw [Nat.toDigits_of_base_le (by decide) (by omega), bytesOf_append, digitsValue_append,
        ih (n / 10) (by omega), hb]
      simp only [digitsValue, digitsFrom, List.foldl_cons, List.foldl_nil] at hdigit ⊢
      omega

/-! ## Integers as numerals -/

namespace Number

/-- An integer as it is written. -/
def ofInt (n : Int) : Number where
  negative := decide (n < 0)
  whole := bytesOf (Nat.repr n.natAbs).toList
  fraction := none
  exponent := none
  isWhole := isWhole_repr n.natAbs

theorem bytes_ofInt (n : Int) : (ofInt n).bytes = bytesOf (Decimal.write n).toList := by
  rw [Decimal.write, String.toList_append, bytesOf_append]
  simp only [bytes, fractionBytes, exponentBytes, ofInt, List.append_nil, decide_eq_true_eq]
  split <;> rfl

/-- **An integer that is written stands for itself.** -/
theorem exactInt?_ofInt (n : Int) : (ofInt n).numeral.exactInt? = some n := by
  simp only [Numeral.exactInt?, numeral, ofInt, Option.map_none, digitsValue_repr, decide_eq_true_eq]
  split <;> congr 1 <;> omega

end Number

/-! ## Integers of sixty-four bits -/

theorem isInt64_iff {n : Int} : isInt64 n = true ↔ -2 ^ 63 ≤ n ∧ n < 2 ^ 63 := by
  have hmax : Int64.maxValue.toInt + 1 = 2 ^ 63 := Int64.toInt_maxValue_add_one
  rw [isInt64, Bool.and_eq_true, decide_eq_true_eq, decide_eq_true_eq, Int64.toInt_minValue]
  omega

theorem isInt64_toInt (n : Int64) : isInt64 n.toInt = true :=
  isInt64_iff.mpr ⟨n.le_toInt, n.toInt_lt⟩

/-- A step that gathers each digit below the limit gathers them all. -/
theorem foldl_gather {step : Nat × Nat → UInt8 → Nat × Nat}
    (hstep : ∀ n b, n * 10 + (b.toNat - 0x30) ≤ significandLimit →
      step (n, 0) b = (n * 10 + (b.toNat - 0x30), 0)) (ds : Bytes) (n : Nat)
    (h : digitsFrom n ds ≤ significandLimit) : ds.foldl step (n, 0) = (digitsFrom n ds, 0) := by
  induction ds generalizing n with
  | nil => rfl
  | cons b ds ih =>
    rw [digitsFrom_cons] at h ⊢
    rw [List.foldl_cons, hstep n b (Nat.le_trans (le_digitsFrom _ ds) h)]
    exact ih _ h

/-- Digits that write no more than sixty-four bits are all gathered. -/
theorem gatherWhole_eq {ds : Bytes} (h : digitsValue ds ≤ significandLimit) :
    gatherWhole ds = (digitsValue ds, 0) :=
  foldl_gather (fun _ _ hnext => if_pos ⟨rfl, hnext⟩) ds 0 h

/-- A significand grows by at most half when it is rounded. -/
theorem roundToDouble_le {n : Nat} (h : n ≤ significandLimit) : roundToDouble n ≤ 2 ^ 65 := by
  have hn : n < 2 ^ 64 := Nat.lt_of_le_of_lt h (by decide)
  have hbits : Bytes.bitLength n ≤ 64 := by
    by_contra hlong
    have hlong : 64 < Bytes.bitLength n := Nat.lt_of_not_le hlong
    have hpow := Bytes.two_pow_le_of_lt_bitLength hlong
    omega
  unfold roundToDouble
  generalize hshift : Bytes.bitLength n - 53 = shift
  have hpow : 2 ^ shift ≤ 2 ^ 11 := Nat.pow_le_pow_right (by decide) (by omega)
  dsimp only
  split
  · omega
  · have hkept : n >>> shift * 2 ^ shift ≤ n := by
      rw [Nat.shiftRight_eq_div_pow]
      exact Nat.div_mul_le_self n (2 ^ shift)
    rw [Nat.shiftLeft_eq]
    split
    · rw [Nat.add_mul, Nat.one_mul]
      omega
    · omega

/-- **No integer of sixty-four bits is too large for a double.** -/
theorem isHuge_eq_false {ds : Bytes} (negative : Bool) (h : digitsValue ds ≤ significandLimit) :
    Numeral.isHuge ⟨negative, ds, [], none⟩ = false := by
  have hone : roundToDouble 1 = 1 := by decide
  have hlimit : 2 ^ 65 < doubleOverflow := by decide +kernel
  have hround := roundToDouble_le h
  have hfits : ¬ doubleOverflow ≤ roundToDouble (digitsValue ds) := by omega
  simp only [Numeral.isHuge, gatherWhole_eq h, gatherFraction, List.foldl_nil]
  simpa [hone] using fun _ => Nat.lt_of_not_le hfits

/-- The integer of sixty-four bits that a numeral stands for, if it stands for one. -/
def Numeral.int64? (numeral : Numeral) : Option Int :=
  if numeral.isHuge then none else numeral.integer?.filter isInt64

/-- **An integer of sixty-four bits that is written is read as one.** -/
theorem int64?_ofInt {n : Int} (h : isInt64 n = true) : (Number.ofInt n).numeral.int64? = some n := by
  have hrange := isInt64_iff.mp h
  have hvalue := digitsValue_repr n.natAbs
  have hlimit : digitsValue (bytesOf (Nat.repr n.natAbs).toList) ≤ significandLimit := by
    have hmax : significandLimit = 2 ^ 64 - 1 := by decide
    rw [hvalue, hmax]
    omega
  have hinteger : (Number.ofInt n).numeral.integer? = some n := by
    simp only [Numeral.integer?, Number.numeral, Number.ofInt, Option.map_none,
      gatherWhole_eq hlimit, hvalue, decide_eq_true_eq]
    split
    · rw [if_neg (by omega)]
      congr 1
      omega
    · congr 1
      omega
  have hhuge : (Number.ofInt n).numeral.isHuge = false := isHuge_eq_false _ hlimit
  rw [Numeral.int64?, hhuge, hinteger, if_neg (by decide), Option.filter_some, if_pos h]

end CodeGrant.Json
