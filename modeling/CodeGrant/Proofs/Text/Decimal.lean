import CodeGrant.Text.Decimal

/-! # What a decimal text writes

A text writes an integer if it consists of digits, at least one, with at most a sign in front
(`Decimal.Writes`).  It is read exactly if that integer lies between the bounds, except that a minus
sign is refused as such where the bounds admit no negative number (`Decimal.read_eq_ok_iff`).

So to read with wide bounds and to test the number afterwards takes one kind of text that narrow
bounds refuse: a minus sign in front of zeros (`Decimal.IsNegativeZero`). -/

namespace CodeGrant.Decimal

/-- The number that a text of digits alone writes behind another number. -/
def digitsFrom? (n : Nat) : List Char → Option Nat
  | [] => some n
  | c :: chars =>
    match digitValue? c with
    | none => none
    | some d => digitsFrom? (n * 10 + d) chars

/-- A text of digits, at least one and perhaps behind a sign, writes an integer. -/
inductive Writes : List Char → Int → Prop where
  | plain {digits : List Char} {n : Nat} (hne : digits ≠ []) (hn : digitsFrom? 0 digits = some n) :
    Writes digits n
  | plus {digits : List Char} {n : Nat} (hne : digits ≠ []) (hn : digitsFrom? 0 digits = some n) :
    Writes ('+' :: digits) n
  | minus {digits : List Char} {n : Nat} (hne : digits ≠ []) (hn : digitsFrom? 0 digits = some n) :
    Writes ('-' :: digits) (-n)

/-- Whether a text is a minus sign with zeros behind it. -/
def IsNegativeZero (text : String) : Prop :=
  ∃ zeros, text.toList = '-' :: zeros ∧ zeros ≠ [] ∧ ∀ c ∈ zeros, c = '0'

variable {chars : List Char} {n m : Nat}

/-! ## Digits -/

/-- More digits make no smaller number. -/
theorem le_of_digitsFrom? (h : digitsFrom? n chars = some m) : n ≤ m := by
  induction chars generalizing n with
  | nil => exact Nat.le_of_eq (Option.some.inj h)
  | cons c chars ih =>
    rw [digitsFrom?] at h
    split at h
    · cases h
    · have hrest := ih h
      omega

theorem digitsFrom?_zeros (h : ∀ c ∈ chars, c = '0') : digitsFrom? 0 chars = some 0 := by
  induction chars with
  | nil => rfl
  | cons c chars ih =>
    obtain rfl := h c List.mem_cons_self
    exact ih fun c hc => h c (List.mem_cons_of_mem _ hc)

theorem eq_zero_of_digitValue? {c : Char} (h : digitValue? c = some 0) : c = '0' := by
  rw [digitValue?] at h
  split at h
  · next hc =>
    have hle : '0'.toNat ≤ c.toNat := hc.1
    have hvalue := Option.some.inj h
    refine Char.toNat_inj.mp ?_
    change c.toNat = 0x30
    change 0x30 ≤ c.toNat at hle
    omega
  · cases h

/-- Only zeros write zero. -/
theorem zeros_of_digitsFrom? (h : digitsFrom? 0 chars = some 0) : ∀ c ∈ chars, c = '0' := by
  induction chars with
  | nil => exact fun c hc => absurd hc List.not_mem_nil
  | cons c chars ih =>
    rw [digitsFrom?] at h
    split at h
    · cases h
    · next d hd =>
      have hzero : d = 0 := by
        have hle := le_of_digitsFrom? h
        omega
      subst hzero
      intro b hb
      rcases List.mem_cons.mp hb with rfl | hb
      · exact eq_zero_of_digitValue? hd
      · exact ih h b hb

/-! ## Gathering digits -/

theorem gatherUp_eq_ok_iff {greatest k : Int} (h : (n : Int) ≤ greatest) :
    gatherUp greatest n chars = .ok k ↔
      ∃ m : Nat, k = m ∧ digitsFrom? n chars = some m ∧ k ≤ greatest := by
  induction chars generalizing n with
  | nil =>
    simp only [gatherUp, digitsFrom?, Except.ok.injEq, Option.some.injEq]
    constructor
    · rintro rfl
      exact ⟨n, rfl, rfl, h⟩
    · rintro ⟨m, rfl, rfl, -⟩
      rfl
  | cons c chars ih =>
    rw [gatherUp, digitsFrom?]
    cases digitValue? c with
    | none => simp
    | some d =>
      by_cases hlarge : greatest < n * 10 + d
      · simp only [hlarge, if_true, reduceCtorEq, false_iff]
        rintro ⟨m, rfl, hm, hle⟩
        have hgrown := le_of_digitsFrom? hm
        omega
      · simp only [hlarge, if_false]
        exact_mod_cast ih (n := n * 10 + d) (by omega)

theorem gatherDown_eq_ok_iff {least k : Int} (h : least ≤ -n) :
    gatherDown least (-n) chars = .ok k ↔
      ∃ m : Nat, k = -m ∧ digitsFrom? n chars = some m ∧ least ≤ k := by
  induction chars generalizing n with
  | nil =>
    simp only [gatherDown, digitsFrom?, Except.ok.injEq, Option.some.injEq]
    constructor
    · rintro rfl
      exact ⟨n, rfl, rfl, h⟩
    · rintro ⟨m, rfl, rfl, -⟩
      rfl
  | cons c chars ih =>
    rw [gatherDown, digitsFrom?]
    cases digitValue? c with
    | none => simp
    | some d =>
      have hnext : -(n : Int) * 10 - d = -((n * 10 + d : Nat) : Int) := by omega
      simp only [hnext]
      by_cases hsmall : -((n * 10 + d : Nat) : Int) < least
      · simp only [hsmall, if_true, reduceCtorEq, false_iff]
        rintro ⟨m, rfl, hm, hle⟩
        have hgrown := le_of_digitsFrom? hm
        omega
      · simp only [hsmall, if_false]
        exact ih (by omega)

/-! ## Texts -/

theorem not_writes_nil {k : Int} : ¬ Writes [] k := by
  rintro ⟨hne, -⟩
  exact hne rfl

theorem writes_plus_iff {k : Int} : Writes ('+' :: chars) k ↔
    chars ≠ [] ∧ ∃ m : Nat, k = m ∧ digitsFrom? 0 chars = some m := by
  constructor
  · rintro (⟨-, hsign⟩ | ⟨hne, hm⟩ | _)
    · cases hsign
    · exact ⟨hne, _, rfl, hm⟩
  · rintro ⟨hne, m, rfl, hm⟩
    exact .plus hne hm

theorem writes_minus_iff {k : Int} : Writes ('-' :: chars) k ↔
    chars ≠ [] ∧ ∃ m : Nat, k = -m ∧ digitsFrom? 0 chars = some m := by
  constructor
  · rintro (⟨-, hsign⟩ | _ | ⟨hne, hm⟩)
    · cases hsign
    · exact ⟨hne, _, rfl, hm⟩
  · rintro ⟨hne, m, rfl, hm⟩
    exact .minus hne hm

theorem writes_cons_iff {c : Char} {k : Int} (hplus : c ≠ '+') (hminus : c ≠ '-') :
    Writes (c :: chars) k ↔ ∃ m : Nat, k = m ∧ digitsFrom? 0 (c :: chars) = some m := by
  constructor
  · rintro (⟨-, hm⟩ | _ | _)
    · exact ⟨_, rfl, hm⟩
    · exact absurd rfl hplus
    · exact absurd rfl hminus
  · rintro ⟨m, rfl, hm⟩
    exact .plain (List.cons_ne_nil _ _) hm

/-- **What is read is what the text writes, between the bounds.**  Where the bounds admit no
negative number there may be no minus sign either. -/
theorem read_eq_ok_iff {least greatest k : Int} {text : String} (hleast : least ≤ 0)
    (hgreatest : 0 ≤ greatest) : read least greatest text = .ok k ↔
      Writes text.toList k ∧ least ≤ k ∧ k ≤ greatest ∧
        (text.toList.head? = some '-' → least < 0) := by
  have hup (digits : List Char) : gatherUp greatest 0 digits = .ok k ↔
      ∃ m : Nat, k = m ∧ digitsFrom? 0 digits = some m ∧ k ≤ greatest :=
    gatherUp_eq_ok_iff hgreatest
  have hdown (digits : List Char) : gatherDown least 0 digits = .ok k ↔
      ∃ m : Nat, k = -m ∧ digitsFrom? 0 digits = some m ∧ least ≤ k :=
    gatherDown_eq_ok_iff (n := 0) hleast
  rw [read]
  split
  · next hnil => simp [hnil, not_writes_nil]
  · next hplus => simp [hplus, writes_plus_iff]
  · next hminus => simp [hminus, writes_minus_iff]
  · next digits hne hplus =>
    rw [hplus, writes_plus_iff, List.head?_cons]
    constructor
    · intro hread
      obtain ⟨m, rfl, hm, hle⟩ := (hup digits).mp hread
      exact ⟨⟨hne, m, rfl, hm⟩, by omega, hle, fun hhead => absurd hhead (by decide)⟩
    · rintro ⟨⟨-, m, rfl, hm⟩, -, hle, -⟩
      exact (hup digits).mpr ⟨m, rfl, hm, hle⟩
  · next digits hne hminus =>
    rw [hminus, writes_minus_iff, List.head?_cons]
    constructor
    · intro hread
      by_cases hneg : least < 0
      · rw [if_pos hneg] at hread
        obtain ⟨m, rfl, hm, hle⟩ := (hdown digits).mp hread
        exact ⟨⟨hne, m, rfl, hm⟩, hle, by omega, fun _ => hneg⟩
      · rw [if_neg hneg] at hread
        cases hread
    · rintro ⟨⟨-, m, rfl, hm⟩, hle, -, hneg⟩
      rw [if_pos (hneg rfl)]
      exact (hdown digits).mpr ⟨m, rfl, hm, hle⟩
  · next hnil _ _ hplus hminus =>
    obtain ⟨c, digits, hcons⟩ := List.exists_cons_of_ne_nil hnil
    have hc : c ≠ '+' := fun hc => hplus digits (hc ▸ hcons)
    have hc' : c ≠ '-' := fun hc => hminus digits (hc ▸ hcons)
    rw [hcons, writes_cons_iff hc hc', List.head?_cons]
    constructor
    · intro hread
      obtain ⟨m, rfl, hm, hle⟩ := (hup _).mp hread
      exact ⟨⟨m, rfl, hm⟩, by omega, hle, fun hhead => absurd (Option.some.inj hhead) hc'⟩
    · rintro ⟨⟨m, rfl, hm⟩, -, hle, -⟩
      exact (hup _).mpr ⟨m, rfl, hm, hle⟩

/-- Behind a minus sign stands no number above zero. -/
theorem nonpos_of_writes {k : Int} (h : Writes chars k) (hsign : chars.head? = some '-') :
    k ≤ 0 := by
  obtain ⟨digits, rfl⟩ := List.head?_eq_some_iff.mp hsign
  obtain ⟨-, m, rfl, -⟩ := writes_minus_iff.mp h
  omega

/-- **A negative zero is zero behind a minus sign.** -/
theorem isNegativeZero_iff {text : String} :
    IsNegativeZero text ↔ Writes text.toList 0 ∧ text.toList.head? = some '-' := by
  constructor
  · rintro ⟨zeros, htext, hne, hzeros⟩
    rw [htext]
    exact ⟨.minus hne (digitsFrom?_zeros hzeros), rfl⟩
  · rintro ⟨hwrites, hhead⟩
    obtain ⟨digits, htext⟩ := List.head?_eq_some_iff.mp hhead
    rw [htext] at hwrites
    obtain ⟨hne, m, hm, hdigits⟩ := writes_minus_iff.mp hwrites
    obtain rfl : m = 0 := by omega
    exact ⟨digits, htext, hne, zeros_of_digitsFrom? hdigits⟩

/-- A negative zero is refused where no negative number is admitted. -/
theorem read_of_isNegativeZero {greatest : Int} {text : String} (h : IsNegativeZero text) :
    read 0 greatest text = .error .invalidDigit := by
  obtain ⟨zeros, htext, hne, -⟩ := h
  obtain ⟨c, zeros, rfl⟩ := List.exists_cons_of_ne_nil hne
  rw [read, htext]
  rfl

end CodeGrant.Decimal
