import CodeGrant.Proofs.Json.Read
import CodeGrant.Proofs.Json.Written

/-! # What is written can be read back

A reader that expects nothing in particular reads any value (`Json.read?`), with the members of an
object as they stand.  It finds what the tree of the document says (`Json.read?_of_spells`), and the
tree of a value that is written says the value (`Json.value?_source`).  So the text of a value is read
back as the value, whatever texts and integers are in it (`Json.read?_render`): nothing that is put
into a document can end a text early or add a member.

A text that is written for a value and read back as the value says it (`Json.SaidBy`). -/

namespace CodeGrant.Json

/-! ## The value of a tree -/

mutual

/-- The value that a tree stands for: an integer must be written plainly, and there are no truth
values. -/
def Source.value? : Source → Option Json
  | .word .null => some .null
  | .word _ => none
  | .number n => n.numeral.exactInt?.map .int
  | .text pieces => (contentOf pieces).map .text
  | .list items => (itemValues? items).map .list
  | .object members => (memberValues? members).map .object

/-- The values of list items. -/
def itemValues? : List Source → Option (List Json)
  | [] => some []
  | source :: sources =>
    source.value?.bind fun value => (itemValues? sources).map (value :: ·)

/-- The names and the values of members. -/
def memberValues? : List (List Piece × Source) → Option (List (String × Json))
  | [] => some []
  | (pieces, source) :: sources =>
    (contentOf pieces).bind fun name =>
      source.value?.bind fun value => (memberValues? sources).map ((name, value) :: ·)

end

mutual

/-- **The tree of a value stands for the value.** -/
theorem value?_source (value : Json) : value.source.value? = some value := by
  match value with
  | .null => rw [source, Source.value?]
  | .int n => rw [source, Source.value?, Number.exactInt?_ofInt, Option.map_some]
  | .text s => rw [source, Source.value?, contentOf_piecesOf, Option.map_some]
  | .list items => rw [source, Source.value?, itemValues?_itemSources items, Option.map_some]
  | .object members =>
    rw [source, Source.value?, memberValues?_memberSources members, Option.map_some]

theorem itemValues?_itemSources (items : List Json) : itemValues? (itemSources items) = some items := by
  match items with
  | [] => rw [itemSources, itemValues?]
  | item :: items =>
    rw [itemSources, itemValues?, value?_source item, Option.bind_some,
      itemValues?_itemSources items, Option.map_some]

theorem memberValues?_memberSources (members : List (String × Json)) :
    memberValues? (memberSources members) = some members := by
  match members with
  | [] => rw [memberSources, memberValues?]
  | (name, value) :: members =>
    rw [memberSources, memberValues?, contentOf_piecesOf, Option.bind_some, value?_source value,
      Option.bind_some, memberValues?_memberSources members, Option.map_some]

end

/-! ## Reading any value -/

mutual

/-- A value and what follows it, in at most `steps` steps. -/
def readFrom (steps : Nat) (bytes : Bytes) : Except Fault (Json × Bytes) :=
  match steps with
  | 0 => .error .truncated
  | steps + 1 =>
    match skipBlanks bytes with
    | [] => .error .truncated
    | b :: bytes =>
      if b = 0x6E then do
        let bytes ← scanWord nullRest bytes
        .ok (.null, bytes)
      else if b = 0x2D ∨ isDigit b then do
        let (numeral, bytes) ← scanNumeral .truncated (b :: bytes)
        match numeral.exactInt? with
        | some n => .ok (.int n, bytes)
        | none => .error .mismatch
      else if b = 0x22 then do
        let (content, bytes) ← readText bytes
        .ok (.text content, bytes)
      else if b = 0x5B then readItemsFrom steps true [] bytes
      else if b = 0x7B then readMembersFrom steps true [] bytes
      else .error .malformed

/-- The items of a list behind those of `done`, which stand last one first. -/
def readItemsFrom (steps : Nat) (first : Bool) (done : List Json) (bytes : Bytes) :
    Except Fault (Json × Bytes) :=
  match steps with
  | 0 => .error .truncated
  | steps + 1 =>
    match nextItem first bytes with
    | .error fault => .error fault
    | .ok (none, rest) => .ok (.list done.reverse, rest)
    | .ok (some bytes, _) =>
      match readFrom steps bytes with
      | .error fault => .error fault
      | .ok (value, rest) => readItemsFrom steps false (value :: done) rest

/-- The members of an object behind those of `done`, which stand last one first. -/
def readMembersFrom (steps : Nat) (first : Bool) (done : List (String × Json)) (bytes : Bytes) :
    Except Fault (Json × Bytes) :=
  match steps with
  | 0 => .error .truncated
  | steps + 1 =>
    match nextName first bytes with
    | .error fault => .error fault
    | .ok (none, rest) => .ok (.object done.reverse, rest)
    | .ok (some name, bytes) =>
      match afterColon bytes with
      | .error fault => .error fault
      | .ok bytes =>
        match readFrom steps bytes with
        | .error fault => .error fault
        | .ok (value, rest) => readMembersFrom steps false ((name, value) :: done) rest

end

/-- The value of a whole document, with nothing but blanks around it. -/
def read? (bytes : Bytes) : Option Json :=
  match readFrom (2 * bytes.length) bytes with
  | .ok (value, rest) => if skipBlanks rest = [] then some value else none
  | .error _ => none

/-! ## The reader finds what the tree says -/

/-- Whether a value is read in fewer steps than twice its tokens. -/
def IsRead (source : Source) : Prop :=
  ∀ steps ⦃behind bytes⦄, 2 * source.tokens.length ≤ steps + 1 → Follows behind →
    Spells true (source.tokens ++ behind) bytes →
      Finds (readFrom steps bytes) source.value? behind

/-- The items of a list. -/
def AreItemsRead (first : Bool) (items : List Source) : Prop :=
  ∀ steps done ⦃behind bytes⦄, 2 * (itemTokens first items).length ≤ steps →
    Spells true (itemTokens first items ++ behind) bytes →
      Finds (readItemsFrom steps first done bytes)
        ((itemValues? items).map fun values => .list (done.reverse ++ values)) behind

/-- The members of an object. -/
def AreMembersRead (first : Bool) (members : List (List Piece × Source)) : Prop :=
  ∀ steps done ⦃behind bytes⦄, 2 * (memberTokens first members).length ≤ steps →
    Spells true (memberTokens first members ++ behind) bytes →
      Finds (readMembersFrom steps first done bytes)
        ((memberValues? members).map fun values => .object (done.reverse ++ values)) behind

/-- A value is read from its first token on. -/
theorem isRead_of_first {source : Source} {token : Token} {tokens : List Token}
    (htokens : source.tokens = token :: tokens)
    (h : ∀ steps bytes rest behind, skipBlanks bytes = token.bytes ++ rest →
      2 * tokens.length ≤ steps → Follows behind → Spells true (tokens ++ behind) rest →
        Finds (readFrom (steps + 1) bytes) source.value? behind) : IsRead source := by
  intro steps behind bytes hsteps hbehind hbytes
  rw [htokens] at hsteps hbytes
  rw [List.length_cons] at hsteps
  obtain ⟨k, rfl⟩ : ∃ k, steps = k + 1 := ⟨steps - 1, by omega⟩
  obtain ⟨rest, hstart, hrest⟩ := hbytes.next
  exact h k bytes rest behind hstart (by omega) hbehind hrest

theorem isRead_word (w : Word) : IsRead (.word w) := by
  refine isRead_of_first (by rw [Source.tokens]) fun k bytes rest behind hbytes _ _ hrest => ?_
  rw [Token.bytes, List.cons_append] at hbytes
  rw [readFrom, hbytes]
  cases w with
  | null =>
    have hscan : scanWord nullRest (Word.null.rest ++ rest) = .ok rest := scanWord_append nullRest rest
    have hvalue : (Source.word .null).value? = some .null := by rw [Source.value?]
    refine hvalue ▸ ⟨rest, ?_, hrest⟩
    simp only [Word.first, if_true, hscan]
    rfl
  | yes => exact ⟨.malformed, rfl⟩
  | no => exact ⟨.malformed, rfl⟩

theorem isRead_number (number : Number) : IsRead (.number number) := by
  refine isRead_of_first (by rw [Source.tokens]) fun k bytes rest behind hbytes _ hbehind hrest => ?_
  have hdelimits : Delimits rest := Spells.delimits hrest hbehind
  have hscan := number.scanNumeral_bytes .truncated hdelimits
  obtain ⟨b, bs, hbs, hb⟩ := number.exists_bytes_eq_cons
  have hnumeral : b = 0x2D ∨ isDigit b = true := hb
  have hnull : b ≠ 0x6E := hb.ne (by decide) rfl
  rw [Token.bytes, hbs, List.cons_append] at hbytes
  rw [hbs, List.cons_append] at hscan
  rw [readFrom, hbytes]
  simp only [if_neg hnull, if_pos hnumeral, hscan]
  rw [Source.value?]
  cases hinteger : number.numeral.exactInt? with
  | none => exact ⟨.mismatch, by simp [hinteger, bind, Except.bind]⟩
  | some n => exact ⟨rest, by simp [hinteger, bind, Except.bind], hrest⟩

theorem isRead_text (pieces : List Piece) : IsRead (.text pieces) := by
  refine isRead_of_first (by rw [Source.tokens]) fun k bytes rest behind hbytes _ _ hrest => ?_
  rw [Token.bytes, List.cons_append] at hbytes
  rw [readFrom, hbytes, Source.value?]
  exact (finds_readText pieces hrest).map Json.text

theorem AreItemsRead.list {items : List Source} (h : AreItemsRead true items) :
    IsRead (.list items) := by
  refine isRead_of_first (by rw [Source.tokens]) fun k bytes rest behind hbytes hsteps _ hrest => ?_
  have hvalues := h k [] hsteps hrest
  rw [readFrom, hbytes, Source.value?]
  exact hvalues

theorem AreMembersRead.object {members : List (List Piece × Source)}
    (h : AreMembersRead true members) : IsRead (.object members) := by
  refine isRead_of_first (by rw [Source.tokens]) fun k bytes rest behind hbytes hsteps _ hrest => ?_
  have hvalues := h k [] hsteps hrest
  rw [readFrom, hbytes, Source.value?]
  exact hvalues

theorem areItemsRead_nil (first : Bool) : AreItemsRead first [] := by
  intro steps done behind bytes hsteps h
  have hpos := length_itemTokens_pos first []
  obtain ⟨k, rfl⟩ : ∃ k, steps = k + 1 := ⟨steps - 1, by omega⟩
  obtain ⟨rest, hrest, hnext⟩ := exists_nextItem_nil h
  refine ⟨rest, ?_, hrest⟩
  rw [readItemsFrom, hnext]
  simp only [List.append_nil]

theorem AreItemsRead.cons {source : Source} {items : List Source} (first : Bool)
    (hitem : IsRead source) (hitems : AreItemsRead false items) :
    AreItemsRead first (source :: items) := by
  intro steps done behind bytes hsteps h
  have hpos := source.length_tokens_pos
  rw [itemTokens] at hsteps
  simp only [List.length_append] at hsteps
  obtain ⟨k, rfl⟩ : ∃ k, steps = k + 1 := ⟨steps - 1, by omega⟩
  obtain ⟨start, hstart, hnext⟩ := exists_nextItem_cons h
  have hvalue := hitem k (by omega) (follows_itemTokens items behind) hstart
  rw [readItemsFrom, hnext, itemValues?, Option.map_bind]
  refine hvalue.bind (fun fault hfault => by simp only [hfault]) fun value rest hread hrest => ?_
  have hvalues := hitems k (value :: done) (by omega) hrest
  simp only [hread]
  simpa [Function.comp_def] using hvalues

theorem areMembersRead_nil (first : Bool) : AreMembersRead first [] := by
  intro steps done behind bytes hsteps h
  have hpos : 0 < (memberTokens first []).length := Nat.succ_pos _
  obtain ⟨k, rfl⟩ : ∃ k, steps = k + 1 := ⟨steps - 1, by omega⟩
  obtain ⟨rest, hrest, hnext⟩ := exists_nextName_nil h
  refine ⟨rest, ?_, hrest⟩
  rw [readMembersFrom, hnext]
  simp only [List.append_nil]

theorem AreMembersRead.cons {pieces : List Piece} {source : Source}
    {members : List (List Piece × Source)} (first : Bool) (hvalue : IsRead source)
    (hmembers : AreMembersRead false members) :
    AreMembersRead first ((pieces, source) :: members) := by
  intro steps done behind bytes hsteps h
  rw [memberTokens] at hsteps
  simp only [List.length_append, List.length_cons] at hsteps
  obtain ⟨k, rfl⟩ : ∃ k, steps = k + 1 := ⟨steps - 1, by omega⟩
  have hname := finds_nextName_cons h
  rw [memberValues?]
  cases hcontent : contentOf pieces with
  | none =>
    rw [hcontent] at hname
    obtain ⟨fault, hfault⟩ := hname
    refine ⟨fault, ?_⟩
    rw [readMembersFrom, hfault]
  | some name =>
    rw [hcontent] at hname
    obtain ⟨rest, hnext, hrest⟩ := hname
    obtain ⟨start, hstart, hcolon⟩ := exists_afterColon hrest
    have hread := hvalue k (by omega) (follows_memberTokens members behind) hstart
    rw [readMembersFrom, hnext, Option.bind_some, Option.map_bind]
    simp only [hcolon]
    refine hread.bind (fun fault hfault => by simp only [hfault]) fun value rest hread hrest => ?_
    have hothers := hmembers k ((name, value) :: done) (by omega) hrest
    simp only [hread]
    simpa [Function.comp_def] using hothers

mutual

/-- **A reader of any value finds what the tree says.** -/
theorem isRead (source : Source) : IsRead source := by
  match source with
  | .word w => exact isRead_word w
  | .number n => exact isRead_number n
  | .text pieces => exact isRead_text pieces
  | .list items => exact (areItemsRead true items).list
  | .object members => exact (areMembersRead true members).object

theorem areItemsRead (first : Bool) (items : List Source) : AreItemsRead first items := by
  match items with
  | [] => exact areItemsRead_nil first
  | source :: items => exact .cons first (isRead source) (areItemsRead false items)

theorem areMembersRead (first : Bool) (members : List (List Piece × Source)) :
    AreMembersRead first members := by
  match members with
  | [] => exact areMembersRead_nil first
  | (pieces, source) :: members => exact .cons first (isRead source) (areMembersRead false members)

end

/-- **The value of a document is the value of its tree.** -/
theorem read?_of_spells {source : Source} {bytes : Bytes} (h : Spells true source.tokens bytes) :
    read? bytes = source.value? := by
  have hlength := h.length_le
  rw [← List.append_nil source.tokens] at h
  have hfinds := isRead source (2 * bytes.length) (by omega) .nil h
  cases hvalue : source.value? with
  | none =>
    rw [hvalue] at hfinds
    obtain ⟨fault, hfault⟩ := hfinds
    rw [read?, hfault]
  | some value =>
    rw [hvalue] at hfinds
    obtain ⟨rest, hread, hrest⟩ := hfinds
    rw [read?, hread]
    exact if_pos hrest.skipBlanks_eq_nil

/-- **The text of a value is read back as the value.** -/
theorem read?_render (value : Json) : read? (Utf8.encode value.render) = some value := by
  rw [read?_of_spells (spells_render true value), value?_source]

/-! ## What a text says -/

/-- Whether a text says a value. -/
structure SaidBy (value : Json) (text : String) : Prop where
  /-- The text is the compact one. -/
  written : text = value.render
  /-- Whoever reads the bytes of the text finds the value. -/
  read : read? (Utf8.encode text) = some value

theorem saidBy_render (value : Json) : value.SaidBy value.render := ⟨rfl, read?_render value⟩

/-- **A text says one value only.** -/
theorem SaidBy.unique {value other : Json} {text : String} (h : value.SaidBy text)
    (h' : other.SaidBy text) : value = other :=
  Option.some.inj (h.read.symm.trans h'.read)

end CodeGrant.Json
