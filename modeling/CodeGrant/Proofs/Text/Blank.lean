import CodeGrant.Text.Blank
import Mathlib.Data.List.TakeWhile

/-! # What trimming leaves

Trimming takes characters off both ends and nothing else (`exists_trim_eq`), and of a word
that stands in white space it leaves the word (`trim_append`). -/

namespace CodeGrant.Text

variable {p : Char → Bool} {chars : List Char}

/-- What satisfies `p` nowhere loses nothing at its start. -/
theorem dropWhile_of_forall (h : ∀ c ∈ chars, p c = false) : chars.dropWhile p = chars := by
  cases chars with
  | nil => rfl
  | cons c chars => rw [List.dropWhile_cons_of_neg (Bool.eq_false_iff.mp (h c List.mem_cons_self))]

theorem dropEndWhile_of_forall (h : ∀ c ∈ chars, p c = false) : dropEndWhile p chars = chars := by
  have hreverse : ∀ c ∈ chars.reverse, p c = false := fun c hc => h c (List.mem_reverse.mp hc)
  rw [dropEndWhile, dropWhile_of_forall hreverse, List.reverse_reverse]

theorem dropEndWhile_append {back : List Char} (h : ∀ c ∈ back, p c = true) :
    dropEndWhile p (chars ++ back) = dropEndWhile p chars := by
  have hreverse : ∀ c ∈ back.reverse, p c = true := fun c hc => h c (List.mem_reverse.mp hc)
  rw [dropEndWhile, List.reverse_append, List.dropWhile_append_of_pos hreverse, dropEndWhile]

/-- What is taken off the end satisfies `p`. -/
theorem exists_dropEndWhile_append (p : Char → Bool) (chars : List Char) :
    ∃ back, chars = dropEndWhile p chars ++ back ∧ ∀ c ∈ back, p c = true := by
  refine ⟨(chars.reverse.takeWhile p).reverse, ?_, fun c hc => ?_⟩
  · rw [dropEndWhile, ← List.reverse_append, List.takeWhile_append_dropWhile,
      List.reverse_reverse]
  · exact List.mem_takeWhile_imp (List.mem_reverse.mp hc)

/-- **Trimming takes white space off both ends.** -/
theorem exists_trim_eq (text : String) : ∃ before after,
    text.toList = before ++ (trim text).toList ++ after ∧
      (∀ c ∈ before, isBlankChar c = true) ∧ ∀ c ∈ after, isBlankChar c = true := by
  obtain ⟨after, hafter, hblank⟩ := exists_dropEndWhile_append isBlankChar (trimStart text.toList)
  refine ⟨text.toList.takeWhile isBlankChar, after, ?_, fun c => List.mem_takeWhile_imp, hblank⟩
  rw [trim, String.toList_ofList, List.append_assoc, ← hafter, trimStart,
    List.takeWhile_append_dropWhile]

/-- **Trimming takes off all white space around a word.** -/
theorem trim_append {before word after : List Char} (hbefore : ∀ c ∈ before, isBlankChar c = true)
    (hword : ∀ c ∈ word, isBlankChar c = false) (hafter : ∀ c ∈ after, isBlankChar c = true) :
    trim (String.ofList (before ++ word ++ after)) = String.ofList word := by
  rw [trim, String.toList_ofList, trimStart, List.append_assoc,
    List.dropWhile_append_of_pos hbefore]
  cases word with
  | nil =>
    rw [List.nil_append, List.dropWhile_eq_nil_iff.mpr hafter]
    rfl
  | cons c word =>
    have hc : ¬ isBlankChar c = true := Bool.eq_false_iff.mp (hword c List.mem_cons_self)
    rw [List.cons_append, List.dropWhile_cons_of_neg hc, ← List.cons_append,
      dropEndWhile_append hafter, dropEndWhile_of_forall hword]

end CodeGrant.Text
