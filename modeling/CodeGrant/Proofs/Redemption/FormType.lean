import Mathlib.Data.List.Basic
import CodeGrant.Proofs.Text.Ascii
import CodeGrant.Proofs.Text.Blank
import CodeGrant.Redemption

/-! # Which bodies are forms

A body is read as a form if its type says so (`TokenRequest.NamesForm`): the value of the header
field holds visible ASCII, spaces and tabs only, and what stands before its first semicolon is the
name of the type in letters of either case, with spaces and tabs around it.

The reader turns the bytes into text, trims the text and puts it in small letters
(`TokenRequest.declaresForm`).  Both come to the same (`TokenRequest.declaresForm_iff`), because
bytes of ASCII and their characters correspond one to one. -/

namespace CodeGrant

open Http (Request)

namespace TokenRequest

/-! ## The type of a form -/

/-- Whether the value of a header field says that a body is a form. -/
structure NamesForm (value : Bytes) : Prop where
  text : ∀ b ∈ value, b = 0x09 ∨ (0x20 ≤ b ∧ b ≤ 0x7E)
  name : ∃ before name after, (Bytes.cut 0x3B value).1 = before ++ Utf8.encode name ++ after ∧
    (∀ b ∈ before ++ after, b = 0x20 ∨ b = 0x09) ∧
    Request.lower name = "application/x-www-form-urlencoded"

/-- A letter of the name in either case is no white space, and is in ASCII. -/
theorem not_isBlankChar_of_toLower_mem {c : Char} (h : c.toLower ∈ formType.toList) :
    Text.isBlankChar c = false ∧ c.toNat < 0x80 := by
  have hsmall : ∀ d ∈ formType.toList, Text.isBlankChar d = false ∧ d.toNat < 0x80 :=
    List.forall_iff_forall_mem.mp (by decide)
  delta Char.toLower at h
  split at h
  · next hcapital =>
    have hlow : 0x41 ≤ c.toNat := hcapital.1
    have hhigh : c.toNat ≤ 0x5A := hcapital.2
    refine ⟨?_, by omega⟩
    simp only [Text.isBlankChar, Bool.or_eq_false_iff, Bool.and_eq_false_iff, decide_eq_false_iff_not,
      beq_eq_false_iff_ne]
    omega
  · exact hsmall c h

theorem not_isBlankChar_of_mem {name : String} (h : Request.lower name = formType) {c : Char}
    (hc : c ∈ name.toList) : Text.isBlankChar c = false ∧ c.toNat < 0x80 := by
  apply not_isBlankChar_of_toLower_mem
  rw [← h, Request.lower, String.toList_ofList]
  exact List.mem_map_of_mem hc

theorem all_isText_iff {value : Bytes} :
    (value.all fun b => b == 0x09 || (0x20 ≤ b && b ≤ 0x7E)) = true ↔ ∀ b ∈ value, Ascii.IsText b := by
  simp [Ascii.IsText, List.all_eq_true]

/-- A value that is all text is read character by character. -/
theorem headerText?_of_forall {value : Bytes} (h : ∀ b ∈ value, Ascii.IsText b) :
    headerText? value = some (String.ofList (value.map Ascii.char)) :=
  if_pos (all_isText_iff.mpr h)

/-- Another value is not read. -/
theorem headerText?_of_not_forall {value : Bytes} (h : ¬ ∀ b ∈ value, Ascii.IsText b) :
    headerText? value = none :=
  if_neg fun hall => h (all_isText_iff.mp hall)

/-- What stands before the first semicolon is cut off alike from the bytes and from the text. -/
theorem takeWhile_map_char (value : Bytes) :
    (value.map Ascii.char).takeWhile (· != ';') = (Bytes.cut 0x3B value).1.map Ascii.char := by
  rw [Bytes.cut, List.takeWhile_map]
  exact congrArg (List.map Ascii.char) (congrArg (List.takeWhile · value)
    (funext Ascii.char_ne_semicolon))

/-- Characters that are white space come from spaces and tabs. -/
theorem isBlank_of_map_char {bytes : Bytes} (htext : ∀ b ∈ bytes, Ascii.IsText b)
    (h : ∀ c ∈ bytes.map Ascii.char, Text.isBlankChar c = true) : ∀ b ∈ bytes, b = 0x20 ∨ b = 0x09 :=
  fun b hb => (Ascii.isBlankChar_char (htext b hb)).mp (h _ (List.mem_map_of_mem hb))

/-- **What trimming leaves of a text stands in it, between spaces and tabs.** -/
theorem exists_eq_trim {front : Bytes} (htext : ∀ b ∈ front, Ascii.IsText b) :
    ∃ before after, front = before
        ++ Utf8.encode (Text.trim (String.ofList (front.map Ascii.char))) ++ after ∧
      ∀ b ∈ before ++ after, b = 0x20 ∨ b = 0x09 := by
  obtain ⟨blanks, blanks', hsplit, hblanks, hblanks'⟩ :=
    Text.exists_trim_eq (String.ofList (front.map Ascii.char))
  rw [String.toList_ofList] at hsplit
  generalize Text.trim (String.ofList (front.map Ascii.char)) = name at hsplit ⊢
  -- The three parts of the text are the characters of three parts of the bytes.
  obtain ⟨start, after, rfl, hstart, rfl⟩ := List.map_eq_append_iff.mp hsplit
  obtain ⟨before, word, rfl, rfl, hword⟩ := List.map_eq_append_iff.mp hstart
  have hname : Utf8.encode name = word := by
    rw [← String.ofList_toList (s := name), ← hword]
    exact Ascii.encode_ofList_map_char fun b hb => htext b (by simp [hb])
  refine ⟨before, after, by rw [hname], fun b hb => ?_⟩
  rcases List.mem_append.mp hb with hb | hb
  · exact isBlank_of_map_char (fun b hb => htext b (by simp [hb])) hblanks b hb
  · exact isBlank_of_map_char (fun b hb => htext b (by simp [hb])) hblanks' b hb

/-- **A name in either case is what is left of it between spaces and tabs.** -/
theorem trim_eq_of_lower_eq {before after : Bytes} {name : String}
    (hblank : ∀ b ∈ before ++ after, b = 0x20 ∨ b = 0x09) (hname : Request.lower name = formType) :
    Text.trim (String.ofList ((before ++ Utf8.encode name ++ after).map Ascii.char)) = name := by
  have hblankChar : ∀ b : UInt8, b = 0x20 ∨ b = 0x09 → Text.isBlankChar (Ascii.char b) = true := by
    rintro b (rfl | rfl) <;> decide
  have hbefore : ∀ c ∈ before.map Ascii.char, Text.isBlankChar c = true := by
    intro c hc
    obtain ⟨b, hb, rfl⟩ := List.mem_map.mp hc
    exact hblankChar b (hblank b (List.mem_append_left _ hb))
  have hafter : ∀ c ∈ after.map Ascii.char, Text.isBlankChar c = true := by
    intro c hc
    obtain ⟨b, hb, rfl⟩ := List.mem_map.mp hc
    exact hblankChar b (hblank b (List.mem_append_right _ hb))
  rw [List.map_append, List.map_append,
    Ascii.map_char_encode fun c hc => (not_isBlankChar_of_mem hname hc).2,
    Text.trim_append hbefore (fun c hc => (not_isBlankChar_of_mem hname hc).1) hafter,
    String.ofList_toList]

/-- **The reader takes a body for a form if its type names one.** -/
theorem declaresForm_iff {value : Bytes} : declaresForm value = true ↔ NamesForm value := by
  have hdeclares : declaresForm value = true ↔ (∀ b ∈ value, Ascii.IsText b) ∧
      Request.lower (Text.trim (String.ofList ((Bytes.cut 0x3B value).1.map Ascii.char)))
        = formType := by
    by_cases htext : ∀ b ∈ value, Ascii.IsText b
    · rw [declaresForm, headerText?_of_forall htext]
      simp only [mediaType, String.toList_ofList, takeWhile_map_char, beq_iff_eq]
      exact (and_iff_right htext).symm
    · rw [declaresForm, headerText?_of_not_forall htext]
      exact ⟨nofun, fun h => absurd h.1 htext⟩
  rw [hdeclares]
  constructor
  · rintro ⟨htext, hname⟩
    have hfront : ∀ b ∈ (Bytes.cut 0x3B value).1, Ascii.IsText b := fun b hb =>
      htext b (List.takeWhile_subset _ hb)
    obtain ⟨before, after, hsplit, hblank⟩ := exists_eq_trim hfront
    exact ⟨htext, before, _, after, hsplit, hblank, hname⟩
  · rintro ⟨htext, before, name, after, hsplit, hblank, hname⟩
    refine ⟨htext, ?_⟩
    rw [hsplit, trim_eq_of_lower_eq hblank hname]
    exact hname

end TokenRequest

end CodeGrant
