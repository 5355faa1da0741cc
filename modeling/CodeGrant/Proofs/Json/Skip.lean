import CodeGrant.Proofs.Json.Scan

/-! # A value is skipped to its end

The reader that skips a value follows its tokens, whatever the value is and however deep it nests
(`Json.passes_tokens`): it comes to the end of the value and no further, leaving what is written
behind it (`Json.exists_skipValue_eq`).  A value takes fewer steps than twice the tokens that it
has, so the steps are enough. -/

namespace CodeGrant.Json

/-- Where the reader of a list or an object stands, before the first item or behind another one. -/
def placeOf (first : Bool) : Place := if first then .opened else .ended

/-! ## One step -/

section

variable {spaced : Bool} {bytes : Bytes} {tokens : List Token} (steps : Nat) (frames : List Frame)

/-- A word, a numeral or a text is a step. -/
theorem exists_skipFrom_leaf {token : Token} (htokens : Follows tokens)
    (h : Spells spaced (token :: tokens) bytes) (hleaf : (∃ w, token = .word w) ∨
      (∃ n, token = .number n) ∨ ∃ pieces, token = .text pieces) :
    ∃ rest, Spells spaced tokens rest ∧
      skipFrom (steps + 1) .value frames bytes = skipFrom steps .ended frames rest := by
  obtain ⟨rest, hbytes, hrest⟩ := h.next
  refine ⟨rest, hrest, ?_⟩
  rcases hleaf with ⟨w, rfl⟩ | ⟨n, rfl⟩ | ⟨pieces, rfl⟩
  · have hword : scanWord w.rest (w.rest ++ rest) = .ok rest := scanWord_append _ _
    rw [Token.bytes, List.cons_append] at hbytes
    cases w <;> simp [skipFrom, hbytes, Word.first] <;> simp_all [Word.rest]
  · have hskip := n.skipNumeral_bytes (hrest.delimits htokens)
    obtain ⟨b, bs, hbs, hb⟩ := n.exists_bytes_eq_cons
    have hnumeral : b = 0x2D ∨ isDigit b = true := hb
    rw [Token.bytes, hbs, List.cons_append] at hbytes
    rw [hbs, List.cons_append] at hskip
    simp only [skipFrom, hbytes]
    rw [if_neg (hb.ne (by decide) rfl), if_neg (hb.ne (by decide) rfl),
      if_neg (hb.ne (by decide) rfl), if_neg (hb.ne (by decide) rfl),
      if_neg (hb.ne (by decide) rfl), if_pos hnumeral, hskip]
  · have htext : skipText (textRest pieces ++ rest) = .ok rest := skipText_textRest pieces rest
    rw [Token.bytes, List.cons_append] at hbytes
    simp [skipFrom, hbytes, isDigit, htext]

/-- A list or an object is opened. -/
theorem exists_skipFrom_opening {frame : Frame} (h : Spells spaced (.opening frame :: tokens) bytes) :
    ∃ rest, Spells spaced tokens rest ∧ skipFrom (steps + 1) .value frames bytes
      = skipFrom steps .opened (frame :: frames) rest := by
  obtain ⟨rest, hbytes, hrest⟩ := h.next
  refine ⟨rest, hrest, ?_⟩
  rw [Token.bytes, List.singleton_append] at hbytes
  cases frame <;> simp [skipFrom, hbytes, Frame.opening]

/-- It is closed where it has just been opened, or where an item has ended. -/
theorem exists_skipFrom_closing {frame : Frame} (first : Bool)
    (h : Spells spaced (.closing frame :: tokens) bytes) :
    ∃ rest, Spells spaced tokens rest ∧ skipFrom (steps + 1) (placeOf first) (frame :: frames) bytes
      = skipFrom steps .ended frames rest := by
  obtain ⟨rest, hbytes, hrest⟩ := h.next
  refine ⟨rest, hrest, ?_⟩
  rw [Token.bytes, List.singleton_append] at hbytes
  cases first <;> simp [skipFrom, placeOf, hbytes]

/-- The name of a member is skipped with its colon. -/
theorem exists_skipName {name : List Piece}
    (h : Spells spaced (.text name :: .colon :: tokens) bytes) :
    ∃ rest, Spells spaced tokens rest ∧ skipName bytes = .ok rest := by
  obtain ⟨behind, hname, hcolon⟩ := h.next
  obtain ⟨rest, hbehind, hrest⟩ := hcolon.next
  refine ⟨rest, hrest, ?_⟩
  rw [Token.bytes, List.cons_append] at hname
  rw [Token.bytes, List.singleton_append] at hbehind
  simp [skipName, hname, skipText_textRest, hbehind, bind, Except.bind]

end

/-! ## Items and members -/

/-- Whether these tokens lead to a value of the innermost frame: none do in a list, and the name and
the colon do in an object. -/
def LeadsIn (frame : Frame) (lead : List Token) (value : Source) : Prop :=
  ∀ {spaced tokens bytes}, Spells spaced (lead ++ (value.tokens ++ tokens)) bytes →
    (∃ b rest, skipBlanks bytes = b :: rest ∧ b ≠ frame.closing) ∧
      ∃ rest, Spells spaced (value.tokens ++ tokens) rest ∧ skipToItem frame bytes = .ok rest

theorem leadsIn_item (value : Source) : LeadsIn .list [] value := by
  intro spaced tokens bytes h
  obtain ⟨b, rest, hbytes, hb⟩ := h.exists_start
  exact ⟨⟨b, rest, hbytes, hb.ne_closing .list⟩, bytes, h, rfl⟩

theorem leadsIn_member (name : List Piece) (value : Source) :
    LeadsIn .object [.text name, .colon] value := by
  intro spaced tokens bytes h
  obtain ⟨rest, hbytes, -⟩ := h.next
  exact ⟨⟨0x22, textRest name ++ rest, hbytes, by decide⟩, exists_skipName h⟩

/-- Before a value of the innermost frame the reader passes a separator, unless the value is the
first, and what leads to the value. -/
theorem exists_skipFrom_entry {frame : Frame} {lead tokens : List Token} {value : Source}
    {spaced : Bool} {bytes : Bytes} (first : Bool) (steps : Nat) (frames : List Frame)
    (hlead : LeadsIn frame lead value)
    (h : Spells spaced (separator first ++ (lead ++ (value.tokens ++ tokens))) bytes) :
    ∃ rest, Spells spaced (value.tokens ++ tokens) rest ∧
      skipFrom (steps + 1) (placeOf first) (frame :: frames) bytes
        = skipFrom steps .value (frame :: frames) rest := by
  cases first with
  | true =>
    obtain ⟨⟨b, bs, hbytes, hb⟩, -⟩ := hlead h
    obtain ⟨-, rest, hrest, hskip⟩ := hlead h.skipBlanks
    refine ⟨rest, hrest, ?_⟩
    rw [hbytes] at hskip
    simp [skipFrom, placeOf, hbytes, hb, hskip]
  | false =>
    obtain ⟨behind, hbytes, hbehind⟩ := h.next
    obtain ⟨-, rest, hrest, hskip⟩ := hlead hbehind
    refine ⟨rest, hrest, ?_⟩
    have hclose : (0x2C : UInt8) ≠ frame.closing := by cases frame <;> decide
    rw [Token.bytes, List.singleton_append] at hbytes
    simp [skipFrom, placeOf, hbytes, hclose, hskip]

/-! ## Values -/

/-- Whether the reader gets from a place behind these tokens in fewer steps than the bound, and has
then closed the frames that were open.  What was open before and what follows do not matter. -/
def Passes (bound : Nat) (place : Place) (opened : List Frame) (tokens : List Token) : Prop :=
  ∃ n < bound, ∀ {spaced behind bytes} steps frames, Follows behind →
    Spells spaced (tokens ++ behind) bytes → ∃ rest, Spells spaced behind rest ∧
      skipFrom (steps + n) place (opened ++ frames) bytes = skipFrom steps .ended frames rest

/-- A value, with what leads to it in front and the rest of its frame behind it. -/
theorem Passes.entry {frame : Frame} {lead others : List Token} {value : Source} (first : Bool)
    (hlead : LeadsIn frame lead value)
    (hvalue : Passes (2 * value.tokens.length) .value [] value.tokens)
    (hothers : Passes (2 * others.length) .ended [frame] others)
    (hfollows : ∀ tokens, Follows (others ++ tokens)) :
    Passes (2 * (separator first ++ (lead ++ (value.tokens ++ others))).length) (placeOf first)
      [frame] (separator first ++ (lead ++ (value.tokens ++ others))) := by
  obtain ⟨m, hm, hvalue⟩ := hvalue
  obtain ⟨n, hn, hothers⟩ := hothers
  refine ⟨n + m + 1, ?_, fun {spaced behind bytes} steps frames hbehind h => ?_⟩
  · simp only [List.length_append]
    omega
  · simp only [List.append_assoc] at h
    obtain ⟨bytes₁, h₁, hentry⟩ :=
      exists_skipFrom_entry first (steps + n + m) frames hlead h
    obtain ⟨bytes₂, h₂, hpast⟩ := hvalue (steps + n) (frame :: frames) (hfollows behind) h₁
    obtain ⟨rest, hrest, hend⟩ := hothers steps frames hbehind h₂
    refine ⟨rest, hrest, ?_⟩
    calc skipFrom (steps + (n + m + 1)) (placeOf first) (frame :: frames) bytes
        = skipFrom (steps + n + m) .value (frame :: frames) bytes₁ := by
          rw [← hentry, ← Nat.add_assoc, ← Nat.add_assoc]
      _ = skipFrom (steps + n) .ended (frame :: frames) bytes₂ := hpast
      _ = skipFrom steps .ended frames rest := hend

theorem passes_leaf {token : Token} (hleaf : (∃ w, token = .word w) ∨ (∃ n, token = .number n) ∨
    ∃ pieces, token = .text pieces) : Passes 2 .value [] [token] :=
  ⟨1, by decide, fun steps frames hbehind h => exists_skipFrom_leaf steps frames hbehind h hleaf⟩

theorem passes_closing (frame : Frame) (first : Bool) :
    Passes 2 (placeOf first) [frame] [.closing frame] :=
  ⟨1, by decide, fun steps frames _ h => exists_skipFrom_closing steps frames first h⟩

/-- A list or an object, once it has been opened. -/
theorem Passes.opening {frame : Frame} {tokens : List Token}
    (h : Passes (2 * tokens.length) .opened [frame] tokens) :
    Passes (2 * (Token.opening frame :: tokens).length) .value [] (.opening frame :: tokens) := by
  obtain ⟨n, hn, h⟩ := h
  refine ⟨n + 1, ?_, fun {spaced behind bytes} steps frames hbehind hbytes => ?_⟩
  · rw [List.length_cons]
    omega
  · obtain ⟨bytes₁, h₁, hopen⟩ := exists_skipFrom_opening (steps + n) frames hbytes
    obtain ⟨rest, hrest, hend⟩ := h steps frames hbehind h₁
    exact ⟨rest, hrest, hopen.trans hend⟩

mutual

-- Two steps for each token are enough: only an opening bracket or brace takes two, one to open the
-- frame and one to look for the first item, and what closes the frame makes up for the second.

/-- **A value is skipped.** -/
theorem passes_tokens (value : Source) :
    Passes (2 * value.tokens.length) .value [] value.tokens := by
  match value with
  | .word w =>
    rw [Source.tokens]
    exact passes_leaf (.inl ⟨w, rfl⟩)
  | .number n =>
    rw [Source.tokens]
    exact passes_leaf (.inr (.inl ⟨n, rfl⟩))
  | .text pieces =>
    rw [Source.tokens]
    exact passes_leaf (.inr (.inr ⟨pieces, rfl⟩))
  | .list items =>
    rw [Source.tokens]
    exact (passes_itemTokens true items).opening
  | .object members =>
    rw [Source.tokens]
    exact (passes_memberTokens true members).opening

theorem passes_itemTokens (first : Bool) (items : List Source) :
    Passes (2 * (itemTokens first items).length) (placeOf first) [.list]
      (itemTokens first items) := by
  match items with
  | [] =>
    rw [itemTokens]
    exact passes_closing .list first
  | item :: items =>
    rw [itemTokens]
    exact (passes_tokens item).entry first (leadsIn_item item) (passes_itemTokens false items)
      (follows_itemTokens items)

theorem passes_memberTokens (first : Bool) (members : List (List Piece × Source)) :
    Passes (2 * (memberTokens first members).length) (placeOf first) [.object]
      (memberTokens first members) := by
  match members with
  | [] =>
    rw [memberTokens]
    exact passes_closing .object first
  | (name, value) :: members =>
    rw [memberTokens]
    exact (passes_tokens value).entry first (leadsIn_member name value)
      (passes_memberTokens false members) (follows_memberTokens members)

end

/-- **Skipping a value leaves what is written behind it**, if there are steps enough. -/
theorem exists_skipValue_eq {value : Source} {spaced : Bool} {behind : List Token} {bytes : Bytes}
    {steps : Nat} (hsteps : 2 * value.tokens.length ≤ steps) (hbehind : Follows behind)
    (h : Spells spaced (value.tokens ++ behind) bytes) :
    ∃ rest, Spells spaced behind rest ∧ skipValue steps bytes = .ok rest := by
  obtain ⟨n, hn, hpasses⟩ := passes_tokens value
  -- One step is left to see that nothing is open.
  obtain ⟨k, rfl⟩ : ∃ k, steps = k + 1 + n := ⟨steps - n - 1, by omega⟩
  obtain ⟨rest, hrest, hskip⟩ := hpasses (k + 1) [] hbehind h
  rw [skipFrom_ended_nil] at hskip
  exact ⟨rest, hrest, hskip⟩

/-! ## Documents -/

/-- Whether a text is a JSON document with nothing around it. -/
def IsDocument (text : String) : Prop :=
  skipValue (2 * (Utf8.encode text).length + 1) (Utf8.encode text) = .ok []

end CodeGrant.Json
