import Std.Data.String.ToInt
import CodeGrant.Json

/-! # The text of a JSON value is the text of no other

Two values with the same text are equal (`Json.render_injective`), so what a body
says is read off its text without doubt.  The statement that carries the induction
allows something to follow the two texts (`eq_of_chars_append`): a text, a list and
an object show where they end, and an integer ends where no digit follows (`Ends`). -/

namespace CodeGrant.Json

/-! ## Texts as lists of characters -/

/-- The characters of a quoted text. -/
def quoteChars (text : String) : List Char := '"' :: (text.toList.flatMap escape ++ ['"'])

@[simp] theorem toList_quote (text : String) : (quote text).toList = quoteChars text :=
  String.toList_ofList

mutual

/-- The characters of a value's text. -/
def chars : Json → List Char
  | null => "null".toList
  | int n => (Decimal.write n).toList
  | text s => quoteChars s
  | list items => '[' :: itemChars items
  | object members => '\x7b' :: memberChars members

/-- The characters of list items and the closing bracket. -/
def itemChars : List Json → List Char
  | [] => [']']
  | item :: rest => chars item ++ restChars rest

/-- The characters behind an item of a list. -/
def restChars : List Json → List Char
  | [] => [']']
  | item :: rest => ',' :: (chars item ++ restChars rest)

/-- The characters of members and the closing brace. -/
def memberChars : List (String × Json) → List Char
  | [] => ['\x7d']
  | (name, value) :: rest => quoteChars name ++ ':' :: (chars value ++ restMemberChars rest)

/-- The characters behind a member of an object. -/
def restMemberChars : List (String × Json) → List Char
  | [] => ['\x7d']
  | (name, value) :: rest =>
    ',' :: (quoteChars name ++ ':' :: (chars value ++ restMemberChars rest))

end

mutual

theorem toList_appendTo (out : String) (value : Json) :
    (appendTo out value).toList = out.toList ++ chars value := by
  match value with
  | null => simp [appendTo, chars]
  | int n => simp [appendTo, chars]
  | text s => simp [appendTo, chars]
  | list items => rw [appendTo, toList_appendItems, chars]; simp
  | object members => rw [appendTo, toList_appendMembers, chars]; simp

theorem toList_appendItems (out : String) (items : List Json) :
    (appendItems out items).toList = out.toList ++ itemChars items := by
  match items with
  | [] => simp [appendItems, itemChars]
  | [item] => rw [appendItems, String.toList_append, toList_appendTo, itemChars, restChars]; simp
  | item :: next :: rest =>
    show (appendItems (appendTo out item ++ ",") (next :: rest)).toList = _
    rw [toList_appendItems, String.toList_append, toList_appendTo, itemChars, itemChars, restChars]
    simp

theorem toList_appendMembers (out : String) (members : List (String × Json)) :
    (appendMembers out members).toList = out.toList ++ memberChars members := by
  match members with
  | [] => simp [appendMembers, memberChars]
  | [(name, value)] =>
    rw [appendMembers, String.toList_append, toList_appendTo, memberChars, restMemberChars]; simp
  | (name, value) :: (next, after) :: rest =>
    show (appendMembers (appendTo (out ++ quote name ++ ":") value ++ ",")
      ((next, after) :: rest)).toList = _
    rw [toList_appendMembers, String.toList_append, toList_appendTo, memberChars, memberChars,
      restMemberChars]
    simp

end

theorem toList_render (value : Json) : value.render.toList = chars value := by
  rw [render, toList_appendTo]
  rfl

/-! ## Quoted texts -/

/-- The characters that are escaped. -/
def escapedChars : List Char := '"' :: '\\' :: (List.range 0x20).map Char.ofNat

theorem eq_of_escape_isPrefixOf {c d : Char} (hc : c ∈ escapedChars) (hd : d ∈ escapedChars)
    (h : (escape c).isPrefixOf (escape d) = true) : c = d := by
  have hall : (escapedChars.all fun c => escapedChars.all fun d =>
      !(escape c).isPrefixOf (escape d) || c == d) = true := by decide +kernel
  have hcd := List.all_eq_true.mp (List.all_eq_true.mp hall c hc) d hd
  rw [h, Bool.not_true, Bool.false_or] at hcd
  exact beq_iff_eq.mp hcd

theorem mem_escapedChars {c : Char} (h : c.toNat < 0x20) : c ∈ escapedChars := by
  have hc : c ∈ (List.range 0x20).map Char.ofNat :=
    List.mem_map.mpr ⟨c.toNat, List.mem_range.mpr h, Char.ofNat_toNat c⟩
  exact List.mem_cons_of_mem _ (List.mem_cons_of_mem _ hc)

theorem head?_escape_of_mem {c : Char} (h : c ∈ escapedChars) : (escape c).head? = some '\\' := by
  have hall : (escapedChars.all fun c => (escape c).head? == some '\\') = true := by
    decide +kernel
  exact beq_iff_eq.mp (List.all_eq_true.mp hall c h)

/-- A character stands for itself, or it is escaped with a backslash. -/
theorem escape_cases (c : Char) :
    (escape c = [c] ∧ c ≠ '\\' ∧ c ≠ '"') ∨
      (c ∈ escapedChars ∧ ∃ rest, escape c = '\\' :: rest) := by
  by_cases h : c ∈ escapedChars
  · exact .inr ⟨h, List.head?_eq_some_iff.mp (head?_escape_of_mem h)⟩
  · have hquote : c ≠ '"' := by
      rintro rfl
      exact h (by decide)
    have hslash : c ≠ '\\' := by
      rintro rfl
      exact h (by decide)
    have hcontrol : ∀ d : Char, d.toNat < 0x20 → c ≠ d := by
      rintro d hd rfl
      exact h (mem_escapedChars hd)
    refine .inl ⟨?_, hslash, hquote⟩
    rw [escape, if_neg hquote, if_neg hslash, if_neg (hcontrol _ (by decide)),
      if_neg (hcontrol _ (by decide)), if_neg (hcontrol _ (by decide)),
      if_neg (hcontrol _ (by decide)), if_neg (hcontrol _ (by decide)),
      if_neg (mt mem_escapedChars h)]

/-- No escaped character is the start of another. -/
theorem eq_of_escape_start {c d : Char} (h : escape c <+: escape d) : c = d := by
  rcases escape_cases c with ⟨hc, hcs, -⟩ | ⟨hc, cs, hcs⟩
  · rcases escape_cases d with ⟨hd, -, -⟩ | ⟨-, ds, hds⟩
    · rw [hc, hd] at h
      exact (List.cons_prefix_cons.mp h).1
    · rw [hc, hds] at h
      exact absurd (List.cons_prefix_cons.mp h).1 hcs
  · rcases escape_cases d with ⟨hd, hds, -⟩ | ⟨hd, -, -⟩
    · rw [hcs, hd] at h
      exact absurd (List.cons_prefix_cons.mp h).1.symm hds
    · exact eq_of_escape_isPrefixOf hc hd (List.isPrefixOf_iff_prefix.mpr h)

theorem eq_of_escape_append {c d : Char} {s t : List Char} (h : escape c ++ s = escape d ++ t) :
    c = d ∧ s = t := by
  -- Both escapes start the same text, so one of them starts the other.
  have hc : escape c <+: escape d ++ t := ⟨s, h⟩
  have hd : escape d <+: escape d ++ t := ⟨t, rfl⟩
  have heq : c = d := by
    rcases List.prefix_or_prefix_of_prefix hc hd with hp | hp
    · exact eq_of_escape_start hp
    · exact (eq_of_escape_start hp).symm
  subst heq
  exact ⟨rfl, List.append_cancel_left h⟩

/-- No escaped character starts with the quotation mark that ends a text. -/
theorem escape_append_ne_quote (c : Char) (s t : List Char) : escape c ++ s ≠ '"' :: t := by
  intro h
  rcases escape_cases c with ⟨hc, -, hq⟩ | ⟨-, rest, hc⟩
  · rw [hc] at h
    exact hq (List.cons.inj h).1
  · rw [hc] at h
    exact absurd (List.cons.inj h).1 (by decide)

theorem eq_of_flatMap_escape {s t : List Char} : ∀ {a b : List Char},
    a.flatMap escape ++ '"' :: s = b.flatMap escape ++ '"' :: t → a = b ∧ s = t
  | [], [], h => ⟨rfl, (List.cons.inj h).2⟩
  | [], d :: b, h => by
    rw [List.flatMap_cons, List.append_assoc] at h
    exact absurd h.symm (escape_append_ne_quote _ _ _)
  | c :: a, [], h => by
    rw [List.flatMap_cons, List.append_assoc] at h
    exact absurd h (escape_append_ne_quote _ _ _)
  | c :: a, d :: b, h => by
    rw [List.flatMap_cons, List.flatMap_cons, List.append_assoc, List.append_assoc] at h
    obtain ⟨rfl, hrest⟩ := eq_of_escape_append h
    obtain ⟨rfl, hs⟩ := eq_of_flatMap_escape hrest
    exact ⟨rfl, hs⟩

/-- **A quoted text shows where it ends.** -/
theorem eq_of_quote_append {a b : String} {s t : List Char}
    (h : quoteChars a ++ s = quoteChars b ++ t) : a = b ∧ s = t := by
  simp only [quoteChars, List.cons_append, List.append_assoc, List.cons.injEq,
    true_and, List.nil_append] at h
  obtain ⟨hab, hst⟩ := eq_of_flatMap_escape h
  exact ⟨String.toList_inj.mp hab, hst⟩

/-! ## Integers -/

/-- The characters of an integer. -/
def isIntChar (c : Char) : Bool := c.isDigit || c == '-'

/-- What may follow an integer without being taken for a part of it. -/
def Ends (s : List Char) : Prop := s.takeWhile isIntChar = []

theorem write_eq_repr (n : Int) : Decimal.write n = Int.repr n := by
  cases n with
  | ofNat n => simp [Decimal.write, Int.repr]
  | negSucc n => simp [Decimal.write, Int.repr, Int.negSucc_lt_zero]

theorem isIntChar_of_mem_write {n : Int} {c : Char} (h : c ∈ (Decimal.write n).toList) :
    isIntChar c = true := by
  have hdigit : ∀ m : Nat, c ∈ (Nat.repr m).toList → isIntChar c = true := by
    intro m hm
    rw [Nat.repr, String.toList_ofList] at hm
    simp [isIntChar, Nat.isDigit_of_mem_toDigits (by decide) (by decide) hm]
  rw [Decimal.write, String.toList_append, List.mem_append] at h
  rcases h with h | h
  · split at h
    · rw [show "-".toList = ['-'] from rfl, List.mem_singleton] at h
      rw [h]; rfl
    · cases h
  · exact hdigit _ h

theorem takeWhile_write_append {n : Int} {s : List Char} (h : Ends s) :
    ((Decimal.write n).toList ++ s).takeWhile isIntChar = (Decimal.write n).toList := by
  rw [List.takeWhile_append_of_pos fun c hc => isIntChar_of_mem_write hc, h, List.append_nil]

/-- **An integer ends where no digit follows.** -/
theorem eq_of_write_append {m n : Int} {s t : List Char} (hs : Ends s) (ht : Ends t)
    (h : (Decimal.write m).toList ++ s = (Decimal.write n).toList ++ t) : m = n ∧ s = t := by
  have hw : (Decimal.write m).toList = (Decimal.write n).toList := by
    rw [← takeWhile_write_append hs, h, takeWhile_write_append ht]
  rw [hw] at h
  refine ⟨Int.repr_injective ?_, List.append_cancel_left h⟩
  rw [← write_eq_repr, ← write_eq_repr]
  exact String.toList_inj.mp hw

/-! ## Values -/

theorem ends_cons {c : Char} (h : isIntChar c = false) (s : List Char) : Ends (c :: s) := by
  rw [Ends, List.takeWhile_cons, h]
  rfl

theorem ends_restChars (rest : List Json) (s : List Char) : Ends (restChars rest ++ s) := by
  cases rest <;> exact ends_cons rfl _

theorem ends_restMemberChars (rest : List (String × Json)) (s : List Char) :
    Ends (restMemberChars rest ++ s) := by
  cases rest <;> exact ends_cons rfl _

/-- Which sort of value a text starts, told by its first character. -/
def sortOf (c : Char) : Nat :=
  if isIntChar c then 0
  else if c = 'n' then 1
  else if c = '"' then 2
  else if c = '[' then 3
  else if c = '\x7b' then 4
  else 5

/-- The sort of a value. -/
def sort : Json → Nat
  | int _ => 0
  | null => 1
  | text _ => 2
  | list _ => 3
  | object _ => 4

theorem exists_chars_eq_cons (value : Json) :
    ∃ c rest, chars value = c :: rest ∧ sortOf c = value.sort := by
  match value with
  | null => exact ⟨'n', _, rfl, rfl⟩
  | int n =>
    have hne : (Decimal.write n).toList ≠ [] := by
      rw [Decimal.write, String.toList_append]
      exact List.append_ne_nil_of_right_ne_nil _
        (mt String.toList_eq_nil_iff.mp Nat.repr_ne_empty)
    obtain ⟨c, rest, h⟩ := List.exists_cons_of_ne_nil hne
    refine ⟨c, rest, h, ?_⟩
    rw [sortOf, isIntChar_of_mem_write (n := n) (h ▸ List.mem_cons_self)]
    rfl
  | text s => exact ⟨'"', _, by rw [chars, quoteChars], rfl⟩
  | list items => exact ⟨'[', _, by rw [chars], rfl⟩
  | object members => exact ⟨'\x7b', _, by rw [chars], rfl⟩

theorem sort_eq_of_chars_append {a b : Json} {s t : List Char}
    (h : chars a ++ s = chars b ++ t) : a.sort = b.sort := by
  obtain ⟨c, as, ha, hc⟩ := exists_chars_eq_cons a
  obtain ⟨d, bs, hb, hd⟩ := exists_chars_eq_cons b
  rw [ha, hb] at h
  rw [← hc, ← hd, (List.cons.inj h).1]

/-- No value starts with the bracket that closes a list. -/
theorem chars_append_ne_bracket (value : Json) (s t : List Char) : chars value ++ s ≠ ']' :: t := by
  obtain ⟨c, rest, hv, hc⟩ := exists_chars_eq_cons value
  intro h
  rw [hv] at h
  rw [(List.cons.inj h).1] at hc
  cases value <;> simp [sortOf, isIntChar, sort] at hc

theorem eq_of_restChars_append {xs ys : List Json} {s t : List Char}
    (hitems : itemChars xs ++ s = itemChars ys ++ t → xs = ys ∧ s = t)
    (h : restChars xs ++ s = restChars ys ++ t) : xs = ys ∧ s = t := by
  cases xs with
  | nil =>
    cases ys with
    | nil => exact ⟨rfl, by simpa [restChars] using h⟩
    | cons _ _ => simp [restChars] at h
  | cons _ _ =>
    cases ys with
    | nil => simp [restChars] at h
    | cons _ _ =>
      rw [restChars, restChars] at h
      exact hitems (List.cons.inj h).2

theorem eq_of_restMemberChars_append {xs ys : List (String × Json)} {s t : List Char}
    (hmembers : memberChars xs ++ s = memberChars ys ++ t → xs = ys ∧ s = t)
    (h : restMemberChars xs ++ s = restMemberChars ys ++ t) : xs = ys ∧ s = t := by
  cases xs with
  | nil =>
    cases ys with
    | nil => exact ⟨rfl, by simpa [restMemberChars] using h⟩
    | cons _ _ => simp [restMemberChars] at h
  | cons _ _ =>
    cases ys with
    | nil => simp [restMemberChars] at h
    | cons _ _ =>
      rw [restMemberChars, restMemberChars] at h
      exact hmembers (List.cons.inj h).2

mutual

/-- **The text of a value shows where it ends and which value it is.** -/
theorem eq_of_chars_append (a b : Json) {s t : List Char} (hs : Ends s) (ht : Ends t)
    (h : chars a ++ s = chars b ++ t) : a = b ∧ s = t := by
  -- The first characters are the same, so the values are of one sort.
  have hsort := sort_eq_of_chars_append h
  match a with
  | null =>
    cases b with
    | null => exact ⟨rfl, List.append_cancel_left h⟩
    | _ => simp [sort] at hsort
  | int m =>
    cases b with
    | int n =>
      obtain ⟨rfl, hst⟩ := eq_of_write_append hs ht h
      exact ⟨rfl, hst⟩
    | _ => simp [sort] at hsort
  | text x =>
    cases b with
    | text y =>
      obtain ⟨rfl, hst⟩ := eq_of_quote_append h
      exact ⟨rfl, hst⟩
    | _ => simp [sort] at hsort
  | list xs =>
    cases b with
    | list ys =>
      rw [chars, chars] at h
      obtain ⟨rfl, hst⟩ := eq_of_itemChars_append xs ys (List.cons.inj h).2
      exact ⟨rfl, hst⟩
    | _ => simp [sort] at hsort
  | object xs =>
    cases b with
    | object ys =>
      rw [chars, chars] at h
      obtain ⟨rfl, hst⟩ := eq_of_memberChars_append xs ys (List.cons.inj h).2
      exact ⟨rfl, hst⟩
    | _ => simp [sort] at hsort

theorem eq_of_itemChars_append {s t : List Char} : ∀ xs ys : List Json,
    itemChars xs ++ s = itemChars ys ++ t → xs = ys ∧ s = t
  | [], [], h => ⟨rfl, by simpa [itemChars] using h⟩
  | [], y :: ys, h => by
    rw [itemChars, itemChars, List.append_assoc] at h
    exact absurd h.symm (chars_append_ne_bracket _ _ _)
  | x :: xs, [], h => by
    rw [itemChars, itemChars, List.append_assoc] at h
    exact absurd h (chars_append_ne_bracket _ _ _)
  | x :: xs, y :: ys, h => by
    rw [itemChars, itemChars, List.append_assoc, List.append_assoc] at h
    obtain ⟨rfl, hrest⟩ := eq_of_chars_append x y (ends_restChars _ _) (ends_restChars _ _) h
    obtain ⟨rfl, hst⟩ := eq_of_restChars_append (eq_of_itemChars_append xs ys) hrest
    exact ⟨rfl, hst⟩

theorem eq_of_memberChars_append {s t : List Char} : ∀ xs ys : List (String × Json),
    memberChars xs ++ s = memberChars ys ++ t → xs = ys ∧ s = t
  | [], [], h => ⟨rfl, by simpa [memberChars] using h⟩
  | [], _ :: _, h => by simp [memberChars, quoteChars] at h
  | _ :: _, [], h => by simp [memberChars, quoteChars] at h
  | (m, x) :: xs, (n, y) :: ys, h => by
    simp only [memberChars, List.append_assoc, List.cons_append] at h
    obtain ⟨rfl, hcolon⟩ := eq_of_quote_append h
    obtain ⟨rfl, hrest⟩ := eq_of_chars_append x y (ends_restMemberChars _ _)
      (ends_restMemberChars _ _) (List.cons.inj hcolon).2
    obtain ⟨rfl, hst⟩ := eq_of_restMemberChars_append (eq_of_memberChars_append xs ys) hrest
    exact ⟨rfl, hst⟩

end

/-- **Values with the same text are equal.** -/
theorem render_injective {a b : Json} (h : a.render = b.render) : a = b := by
  have hends : Ends [] := rfl
  have hchars : chars a ++ [] = chars b ++ [] := by
    rw [← toList_render, ← toList_render, h]
  exact (eq_of_chars_append a b hends hends hchars).1

end CodeGrant.Json
