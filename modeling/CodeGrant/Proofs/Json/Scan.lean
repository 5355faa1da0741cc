import CodeGrant.Proofs.Json.Source

/-! # The leaves are scanned as they are written

A word, a numeral and a text that stand at the front are scanned to their ends, and no further.
A numeral is cut into its parts (`Number.scanNumeral_bytes`); it ends where a blank, a comma, a
bracket or a brace comes (`Delimits`).  A text can be skipped whatever is escaped in it
(`skipText_textRest`); it can be kept if its pieces stand for a text, which is then found
(`finds_readText`). -/

namespace CodeGrant.Json

/-! ## What a scanner finds -/

/-- Whether a scanner finds what there is to find, leaving what spells the tokens, and fails where
there is nothing. -/
def Finds {α : Type} (result : Except Fault (α × Bytes)) (expected : Option α)
    (tokens : List Token) : Prop :=
  match expected with
  | some value => ∃ rest, result = .ok (value, rest) ∧ Spells true tokens rest
  | none => ∃ fault, result = .error fault

/-- What is found may be made into something else. -/
theorem Finds.map {α β : Type} {result : Except Fault (α × Bytes)} {expected : Option α}
    {tokens : List Token} (f : α → β) (h : Finds result expected tokens) :
    Finds (do
      let (value, rest) ← result
      .ok (f value, rest)) (expected.map f) tokens := by
  cases expected with
  | none =>
    obtain ⟨fault, rfl⟩ := h
    exact ⟨fault, rfl⟩
  | some value =>
    obtain ⟨rest, rfl, hrest⟩ := h
    exact ⟨rest, rfl, hrest⟩

/-- Where a first thing must be found before others, what is found of the first decides. -/
theorem Finds.bind {α β : Type} {result : Except Fault (α × Bytes)} {expected : Option α}
    {between tokens : List Token} {whole : Except Fault (β × Bytes)} {more : α → Option β}
    (h : Finds result expected between)
    (hfault : ∀ fault, result = .error fault → whole = .error fault)
    (hfound : ∀ value rest, result = .ok (value, rest) → Spells true between rest →
      Finds whole (more value) tokens) : Finds whole (expected.bind more) tokens := by
  cases expected with
  | none =>
    obtain ⟨fault, hresult⟩ := h
    exact ⟨fault, hfault fault hresult⟩
  | some value =>
    obtain ⟨rest, hresult, hrest⟩ := h
    exact hfound value rest hresult hrest

/-! ## Words -/

theorem scanWord_append (word rest : Bytes) : scanWord word (word ++ rest) = .ok rest := by
  induction word with
  | nil => rw [List.nil_append, scanWord]
  | cons b word ih => rw [List.cons_append, scanWord, if_pos rfl, ih]

/-! ## Numerals -/

section

variable {ds rest : Bytes} (atEnd : Fault)

/-- Digits are scanned up to the first byte that is none. -/
theorem scanDigits_append (hds : IsDigits ds) (hrest : ∀ b ∈ rest.head?, isDigit b = false) :
    scanDigits atEnd (ds ++ rest) = .ok (ds, rest) := by
  have htake : rest.takeWhile isDigit = [] ∧ rest.dropWhile isDigit = rest := by
    cases rest with
    | nil => exact ⟨rfl, rfl⟩
    | cons b rest =>
      have hb : isDigit b = false := hrest b rfl
      rw [List.takeWhile_cons, List.dropWhile_cons, hb]
      exact ⟨rfl, rfl⟩
  obtain ⟨b, bs, hcons⟩ := List.exists_cons_of_ne_nil hds.ne_nil
  have hb : isDigit b = true := hds.digits b (hcons ▸ List.mem_cons_self)
  rw [hcons, List.cons_append, scanDigits, if_pos hb, ← List.cons_append, ← hcons,
    List.takeWhile_append_of_pos hds.digits, List.dropWhile_append_of_pos hds.digits, htake.1,
    htake.2, List.append_nil]

theorem scanWhole_append (hds : IsWhole ds) (hrest : ∀ b ∈ rest.head?, isDigit b = false) :
    scanWhole atEnd (ds ++ rest) = .ok (ds, rest) := by
  rcases hds.zero with rfl | hzero
  · cases rest with
    | nil => rfl
    | cons b rest =>
      have hb : isDigit b = false := hrest b rfl
      rw [List.singleton_append, scanWhole, hb]
      rfl
  · rw [scanWhole.eq_def]
    split
    · next b bytes heq =>
      -- Then the digits would start with a zero.
      obtain ⟨d, ds, rfl⟩ := List.exists_cons_of_ne_nil hds.ne_nil
      rw [List.cons_append] at heq
      refine absurd ?_ hzero
      rw [List.head?_cons, (List.cons.inj heq).1]
    · exact scanDigits_append atEnd hds.toIsDigits hrest

end

/-- What ends a number is no digit, no point and no letter of an exponent. -/
theorem Delimits.ne_of_mem_head? {rest : Bytes} (h : Delimits rest) :
    ∀ b ∈ rest.head?, isDigit b = false ∧ b ≠ 0x2E ∧ b ≠ 0x65 ∧ b ≠ 0x45 := by
  intro b hb
  cases h with
  | nil => cases hb
  | @blank c hc bytes =>
    obtain rfl := Option.some.inj hb
    have hblank : c = 0x20 ∨ c = 0x09 ∨ c = 0x0A ∨ c = 0x0D := by
      simpa only [isBlank, Bool.or_eq_true, beq_iff_eq, or_assoc] using hc
    rcases hblank with rfl | rfl | rfl | rfl <;> decide
  | comma =>
    obtain rfl := Option.some.inj hb
    decide
  | closing frame =>
    obtain rfl := Option.some.inj hb
    cases frame <;> decide

namespace Number

variable (number : Number) {rest : Bytes} (atEnd : Fault)

theorem scanExponent_exponentBytes (hrest : Delimits rest) :
    scanExponent atEnd (number.exponentBytes ++ rest) =
      .ok (number.exponent.map fun exponent => (exponent.sign.getD false, exponent.digits),
        rest) := by
  unfold exponentBytes
  cases number.exponent with
  | none =>
    rw [List.nil_append]
    cases rest with
    | nil => rfl
    | cons b rest =>
      obtain ⟨-, -, hsmall, hcapital⟩ := hrest.ne_of_mem_head? b rfl
      rw [scanExponent.eq_def]
      exact if_neg (not_or.mpr ⟨hsmall, hcapital⟩)
  | some exponent =>
    obtain ⟨capital, sign, ds, hds⟩ := exponent
    have hdigits : scanDigits atEnd (ds ++ rest) = .ok (ds, rest) :=
      scanDigits_append atEnd hds fun b hb => (hrest.ne_of_mem_head? b hb).1
    have hletter : (if capital then 0x45 else 0x65 : UInt8) = 0x65 ∨
        (if capital then 0x45 else 0x65 : UInt8) = 0x45 := by cases capital <;> decide
    simp only [Exponent.bytes, List.cons_append, scanExponent, if_pos hletter]
    cases sign with
    | none =>
      -- Without a sign the first digit comes at once.
      obtain ⟨d, ds, rfl⟩ := List.exists_cons_of_ne_nil hds.ne_nil
      have hd : isDigit d = true := hds.digits d List.mem_cons_self
      have hplus : d ≠ 0x2B := by rintro rfl; cases hd
      have hminus : d ≠ 0x2D := by rintro rfl; cases hd
      rw [List.cons_append] at hdigits
      simp [Exponent.signBytes, hplus, hminus, hdigits, bind, Except.bind]
    | some negative =>
      cases negative <;> simp [Exponent.signBytes, hdigits, bind, Except.bind]

theorem head?_exponentBytes (hrest : Delimits rest) :
    ∀ b ∈ (number.exponentBytes ++ rest).head?, isDigit b = false ∧ b ≠ 0x2E := by
  unfold exponentBytes
  cases number.exponent with
  | none =>
    intro b hb
    obtain ⟨hdigit, hpoint, -⟩ := hrest.ne_of_mem_head? b hb
    exact ⟨hdigit, hpoint⟩
  | some exponent =>
    intro b hb
    obtain rfl := Option.some.inj hb
    cases exponent.capital <;> decide

theorem scanFraction_fractionBytes (hrest : Delimits rest) :
    scanFraction atEnd (number.fractionBytes ++ (number.exponentBytes ++ rest)) =
      .ok (number.numeral.fraction, number.exponentBytes ++ rest) := by
  have hhead := number.head?_exponentBytes hrest
  unfold fractionBytes numeral
  cases number.fraction with
  | none =>
    rw [List.nil_append, scanFraction.eq_def]
    split
    · next bytes heq =>
      rw [heq] at hhead
      exact absurd rfl (hhead 0x2E rfl).2
    · rfl
  | some ds => exact scanDigits_append atEnd ds.2 fun b hb => (hhead b hb).1

theorem head?_fractionBytes (hrest : Delimits rest) :
    ∀ b ∈ (number.fractionBytes ++ (number.exponentBytes ++ rest)).head?, isDigit b = false := by
  have hhead := number.head?_exponentBytes hrest
  unfold fractionBytes
  cases number.fraction with
  | none => exact fun b hb => (hhead b hb).1
  | some ds =>
    intro b hb
    obtain rfl := Option.some.inj hb
    rfl

/-- **A numeral is cut into its parts.** -/
theorem scanNumeral_bytes (hrest : Delimits rest) :
    scanNumeral atEnd (number.bytes ++ rest) = .ok (number.numeral, rest) := by
  have hwhole := scanWhole_append atEnd number.isWhole (number.head?_fractionBytes hrest)
  have hfraction := number.scanFraction_fractionBytes atEnd hrest
  have hexponent := number.scanExponent_exponentBytes atEnd hrest
  have hbytes : number.bytes ++ rest = (if number.negative then [0x2D] else [])
      ++ (number.whole ++ (number.fractionBytes ++ (number.exponentBytes ++ rest))) := by
    simp only [bytes, List.append_assoc]
  rw [hbytes]
  cases hnegative : number.negative with
  | true => simp [scanNumeral, bind, Except.bind, hwhole, hfraction, hexponent, numeral, hnegative]
  | false =>
    obtain ⟨d, ds, hds⟩ := List.exists_cons_of_ne_nil number.isWhole.ne_nil
    have hd : d ≠ 0x2D := by
      rintro rfl
      have hdigit := number.isWhole.digits 0x2D (hds ▸ List.mem_cons_self)
      cases hdigit
    rw [hds, List.cons_append] at hwhole
    simp [scanNumeral, bind, Except.bind, hds, hd, hwhole, hfraction, hexponent, numeral, hnegative]

/-- **A numeral is skipped.** -/
theorem skipNumeral_bytes (hrest : Delimits rest) :
    skipNumeral (number.bytes ++ rest) = .ok rest := by
  rw [skipNumeral, number.scanNumeral_bytes .malformed hrest]
  rfl

end Number

/-! ## Texts -/

/-- The bytes of a character that stands for itself are neither quotation marks nor backslashes, and
none is a control character. -/
theorem plain_of_mem_utf8EncodeChar {c : Char} {b : UInt8} (hc : c ∉ escapedChars)
    (h : b ∈ String.utf8EncodeChar c) : b ≠ 0x22 ∧ b ≠ 0x5C ∧ ¬ b < 0x20 := by
  have hne : ∀ d ∈ escapedChars, d.toNat < 0x80 → b.toNat ≠ d.toNat := by
    intro d hd hlt hb
    rcases Ascii.toNat_of_mem_utf8EncodeChar h with hself | hbeyond
    · exact hc (Char.toNat_inj.mp (hself.symm.trans hb) ▸ hd)
    · omega
  refine ⟨?_, ?_, ?_⟩
  · rintro rfl
    exact hne '"' (by decide) (by decide) rfl
  · rintro rfl
    exact hne '\\' (by decide) (by decide) rfl
  · intro hlt
    have hnum : ∀ n < 0x20, (Char.ofNat n).toNat = n := by decide
    have hb := hnum b.toNat hlt
    refine hne (Char.ofNat b.toNat) (mem_escapedChars ?_) ?_ hb.symm <;> rw [hb]
    · exact hlt
    · exact Nat.lt_trans hlt (by decide)

/-- Bytes that stand for themselves are skipped one by one. -/
theorem skipText_append_of_plain {bytes : Bytes}
    (h : ∀ b ∈ bytes, b ≠ 0x22 ∧ b ≠ 0x5C ∧ ¬ b < 0x20) (rest : Bytes) :
    skipText (bytes ++ rest) = skipText rest := by
  induction bytes with
  | nil => rfl
  | cons b bytes ih =>
    obtain ⟨hquote, hslash, hcontrol⟩ := h b List.mem_cons_self
    rw [List.cons_append, skipText.eq_def]
    simp only [if_neg hquote, if_neg hslash, if_neg hcontrol]
    exact ih fun c hc => h c (List.mem_cons_of_mem b hc)

theorem shortEscape?_ne {e value : UInt8} (h : shortEscape? e = some value) : e ≠ 0x75 := by
  rintro rfl
  cases h

/-- **A piece is skipped**, whatever it stands for. -/
theorem skipText_piece (piece : Piece) (rest : Bytes) :
    skipText (piece.bytes ++ rest) = skipText rest := by
  cases piece with
  | plain c h => exact skipText_append_of_plain (fun b hb => plain_of_mem_utf8EncodeChar h hb) rest
  | short e value h =>
    rw [Piece.bytes, skipText.eq_def]
    simp [shortEscape?_ne h, h]
  | unit d1 d2 d3 d4 value h =>
    rw [Piece.bytes, skipText.eq_def]
    simp [h]

theorem textRest_cons (piece : Piece) (pieces : List Piece) (rest : Bytes) :
    textRest (piece :: pieces) ++ rest = piece.bytes ++ (textRest pieces ++ rest) := by
  simp only [textRest, List.flatMap_cons, List.append_assoc]

/-- **A text is skipped.** -/
theorem skipText_textRest (pieces : List Piece) (rest : Bytes) :
    skipText (textRest pieces ++ rest) = .ok rest := by
  induction pieces with
  | nil => exact skipText_quote rest
  | cons piece pieces ih =>
    rw [textRest_cons, skipText_piece, ih]

/-! ## Texts that are kept -/

/-- A byte that is named by a short escape is a character of its own. -/
theorem utf8EncodeChar_of_shortEscape? {e value : UInt8} (h : shortEscape? e = some value) :
    String.utf8EncodeChar (Char.ofNat value.toNat) = [value] := by
  unfold shortEscape? at h
  split_ifs at h with hself
  · -- A quotation mark, a backslash or a slash names itself.
    obtain rfl := Option.some.inj h
    rcases hself with rfl | rfl | rfl <;> decide
  all_goals
    obtain rfl := Option.some.inj h
    decide

section

variable (high : Option Nat) (done rest : Bytes)

/-- A byte that stands for itself is gathered, unless the second half of a pair must come. -/
theorem gatherText_plain {b : UInt8} (h : b ≠ 0x22 ∧ b ≠ 0x5C ∧ ¬ b < 0x20) :
    gatherText high done (b :: rest) =
      if high.isSome then .error .malformed else gatherText none (b :: done) rest := by
  obtain ⟨hquote, hslash, hcontrol⟩ := h
  rw [gatherText.eq_def]
  simp only [if_neg hquote, if_neg hslash, if_neg hcontrol]

/-- So is the character of a short escape. -/
theorem gatherText_short {e value : UInt8} (h : shortEscape? e = some value) :
    gatherText high done (0x5C :: e :: rest) =
      if high.isSome then .error .malformed
      else gatherText none ((String.utf8EncodeChar (Char.ofNat value.toNat)).reverse ++ done) rest := by
  rw [utf8EncodeChar_of_shortEscape? h, gatherText.eq_def]
  cases high <;> simp [shortEscape?_ne h, h]

/-- Four digits give a character, a first half of a pair that is kept in mind, or the second half
that must come, and must not come elsewhere. -/
theorem gatherText_unit {d1 d2 d3 d4 : UInt8} {value : Nat} (h : hex4? d1 d2 d3 d4 = some value) :
    gatherText high done (0x5C :: 0x75 :: d1 :: d2 :: d3 :: d4 :: rest) =
      match high with
      | none =>
        if isLowHalf value then .error .malformed
        else if isHighHalf value then gatherText (some value) done rest
        else gatherText none ((String.utf8EncodeChar (Char.ofNat value)).reverse ++ done) rest
      | some high =>
        if isLowHalf value then
          gatherText none ((String.utf8EncodeChar (pairChar high value)).reverse ++ done) rest
        else .error .malformed := by
  rw [gatherText.eq_def]
  cases high <;> simp [h]

end

/-- Bytes that stand for themselves are gathered one by one. -/
theorem gatherText_append_of_plain {bytes : Bytes}
    (h : ∀ b ∈ bytes, b ≠ 0x22 ∧ b ≠ 0x5C ∧ ¬ b < 0x20) (done rest : Bytes) :
    gatherText none done (bytes ++ rest) = gatherText none (bytes.reverse ++ done) rest := by
  induction bytes generalizing done with
  | nil => rfl
  | cons b bytes ih =>
    obtain ⟨hb, hbytes⟩ := List.forall_mem_cons.mp h
    rw [List.cons_append, gatherText_plain _ _ _ hb, if_neg (by decide), ih hbytes,
      List.reverse_cons, List.append_assoc, List.singleton_append]

/-- Whether the bytes of these characters are gathered behind those of `done`, or the text is given
up where there are none. -/
def Gathers (result : Except Fault (Bytes × Bytes)) (expected : Option (List Char))
    (done rest : Bytes) : Prop :=
  match expected with
  | some cs => result = .ok ((bytesOf cs).reverse ++ done, rest)
  | none => ∃ fault, result = .error fault

theorem Gathers.cons {result : Except Fault (Bytes × Bytes)} {expected : Option (List Char)}
    {done rest : Bytes} {c : Char}
    (h : Gathers result expected ((String.utf8EncodeChar c).reverse ++ done) rest) :
    Gathers result (expected.map (c :: ·)) done rest := by
  cases expected with
  | none => exact h
  | some cs =>
    have hresult : result = .ok ((bytesOf cs).reverse ++ ((String.utf8EncodeChar c).reverse ++ done),
      rest) := h
    rw [hresult, Option.map_some, Gathers, bytesOf_cons, List.reverse_append, List.append_assoc]

/-- A piece is gathered, and the other pieces behind it. -/
theorem Gathers.piece {pieces : List Piece} {bytes rest : Bytes} (piece : Piece)
    (hpieces : ∀ high done, Gathers (gatherText high done bytes) (contentFrom high pieces) done rest)
    (high : Option Nat) (done : Bytes) : Gathers (gatherText high done (piece.bytes ++ bytes))
      (contentFrom high (piece :: pieces)) done rest := by
  cases piece with
  | plain c h =>
    have hplain (b : UInt8) (hb : b ∈ String.utf8EncodeChar c) := plain_of_mem_utf8EncodeChar h hb
    rw [Piece.bytes]
    cases high with
    | none =>
      rw [contentFrom, gatherText_append_of_plain hplain]
      exact (hpieces none _).cons
    | some high =>
      -- The first byte is refused already.
      obtain ⟨b, bs, hbs⟩ := List.exists_cons_of_length_pos
        (String.length_utf8EncodeChar c ▸ c.utf8Size_pos)
      rw [hbs, List.cons_append, gatherText_plain _ _ _ (hplain b (hbs ▸ List.mem_cons_self))]
      exact ⟨.malformed, rfl⟩
  | short e value h =>
    rw [Piece.bytes, List.cons_append, List.singleton_append, gatherText_short _ _ _ h]
    cases high with
    | none =>
      rw [contentFrom]
      exact (hpieces none _).cons
    | some high => exact ⟨.malformed, rfl⟩
  | unit d1 d2 d3 d4 value h =>
    simp only [Piece.bytes, List.cons_append, List.nil_append, gatherText_unit _ _ _ h]
    cases high with
    | none =>
      simp only [contentFrom]
      split
      · exact ⟨.malformed, rfl⟩
      split
      · exact hpieces _ _
      · exact (hpieces none _).cons
    | some high =>
      simp only [contentFrom]
      split
      · exact (hpieces none _).cons
      · exact ⟨.malformed, rfl⟩

/-- **What pieces stand for is gathered.** -/
theorem gathers_textRest (pieces : List Piece) (high : Option Nat) (done rest : Bytes) :
    Gathers (gatherText high done (textRest pieces ++ rest)) (contentFrom high pieces) done rest := by
  induction pieces generalizing high done with
  | nil =>
    cases high with
    | none => exact gatherText_quote none done rest
    | some high => exact ⟨.malformed, gatherText_quote (some high) done rest⟩
  | cons piece pieces ih =>
    rw [textRest_cons]
    exact Gathers.piece piece ih high done

/-- **A text is read as what its pieces stand for.** -/
theorem finds_readText {tokens : List Token} {rest : Bytes} (pieces : List Piece)
    (h : Spells true tokens rest) :
    Finds (readText (textRest pieces ++ rest)) (contentOf pieces) tokens := by
  have hgathers := gathers_textRest pieces none [] rest
  unfold contentOf readText
  cases hcontent : contentFrom none pieces with
  | none =>
    rw [hcontent] at hgathers
    obtain ⟨fault, hfault⟩ := hgathers
    refine ⟨fault, ?_⟩
    rw [hfault]
    rfl
  | some cs =>
    rw [hcontent] at hgathers
    have hgathered : gatherText none [] (textRest pieces ++ rest)
        = .ok ((bytesOf cs).reverse ++ [], rest) := hgathers
    refine ⟨rest, ?_, h⟩
    have hdecode : Utf8.decode? (bytesOf cs) = some (String.ofList cs) := by
      rw [← Utf8.decode?_encode (String.ofList cs), encode_eq_bytesOf, String.toList_ofList]
    simp [hgathered, hdecode, bind, Except.bind]

end CodeGrant.Json
