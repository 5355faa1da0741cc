import CodeGrant.Json.Shape
import CodeGrant.Proofs.Json.Integer
import CodeGrant.Proofs.Json.Scan
import CodeGrant.Proofs.Json.Skip

/-! # What is read from a document

A reader of a shape (`Json.Shape.readFrom`) finds in a document what the tree of the document says
(`Json.Source.fit?`), and fails where the tree does not fit (`Json.toOption_read`).  So what is read
depends neither on the blanks between the tokens nor on the members that nobody asked for, and the
members of a record may come in any order (`Json.recordOf_perm`).

Two steps for each token of the document are enough, as they are to skip a value; the first token of
a value leaves one step over, which is spent where the value is asked for optionally. -/

namespace CodeGrant.Json

/-! ## Shapes -/

namespace Shape

/-- The shape of a value that is not `null`. -/
def core : Shape → Shape
  | optional shape => shape
  | shape => shape

/-- Whether the shape asks for a value. -/
def isCore : Shape → Bool
  | optional _ => false
  | _ => true

mutual

/-- Whether no optional value is asked for optionally. -/
def isFlat : Shape → Bool
  | text => true
  | int64 => true
  | optional shape => shape.isCore && shape.isFlat
  | list item => item.isFlat
  | record fields => fieldsFlat fields

/-- Whether the shapes of fields are flat. -/
def fieldsFlat : List (String × Shape) → Bool
  | [] => true
  | (_, shape) :: fields => shape.isFlat && fieldsFlat fields

end

/-- The bytes that a value of the shape may start with, unless it is `null`. -/
def MayStart : Shape → UInt8 → Prop
  | text, b => b = 0x22
  | int64, b => StartsNumeral b
  | optional shape, b => shape.MayStart b
  | list _, b => b = 0x5B
  | record _, b => b = 0x5B ∨ b = 0x7B

end Shape

/-- The record with the members that were found, if no name was found twice and none is missing. -/
def recordOf (fields : List (String × Shape)) (found : List (String × Json)) : Option Json :=
  if (found.map Prod.fst).Nodup then (collect found fields).toOption.map .object else none

mutual

/-- The value that is read from a tree by a shape, if one is. -/
def Source.fit? (shape : Shape) : Source → Option Json
  | .word w => if w = .null ∧ shape.isCore = false then some .null else none
  | .number n =>
    match shape.core with
    | .int64 => n.numeral.int64?.map .int
    | _ => none
  | .text pieces =>
    match shape.core with
    | .text => (contentOf pieces).map .text
    | _ => none
  | .list items =>
    match shape.core with
    | .list item => (fitItems? item items).map .list
    | .record fields => (fitFields? fields items).map .object
    | _ => none
  | .object members =>
    match shape.core with
    | .record fields => (fitMembers? fields members).bind (recordOf fields)
    | _ => none

/-- The items that are read from those of a list. -/
def fitItems? (item : Shape) : List Source → Option (List Json)
  | [] => some []
  | source :: sources =>
    (source.fit? item).bind fun value => (fitItems? item sources).map (value :: ·)

/-- The members of a record that is written as a list. -/
def fitFields? (fields : List (String × Shape)) : List Source → Option (List (String × Json))
  | [] =>
    match fields with
    | [] => some []
    | _ :: _ => none
  | source :: sources =>
    match fields with
    | [] => none
    | (name, shape) :: fields =>
      (source.fit? shape).bind fun value =>
        (fitFields? fields sources).map ((name, value) :: ·)

/-- The known members of a record that is written as an object. -/
def fitMembers? (fields : List (String × Shape)) :
    List (List Piece × Source) → Option (List (String × Json))
  | [] => some []
  | (pieces, source) :: sources =>
    (contentOf pieces).bind fun name =>
      match fields.lookup name with
      | none => fitMembers? fields sources
      | some shape =>
        (source.fit? shape).bind fun value =>
          (fitMembers? fields sources).map ((name, value) :: ·)

end

/-! ## Records -/

/-- In a list with one value a name, what is found under a name is what stands there. -/
theorem lookup_eq_some_iff_mem {α : Type} {found : List (String × α)} {name : String} {value : α}
    (h : (found.map Prod.fst).Nodup) : found.lookup name = some value ↔ (name, value) ∈ found := by
  constructor
  · intro hlookup
    obtain ⟨front, back, rfl, -⟩ := List.lookup_eq_some_iff.mp hlookup
    exact List.mem_append_right front List.mem_cons_self
  · intro hmem
    obtain ⟨front, back, rfl⟩ := List.append_of_mem hmem
    refine List.lookup_eq_some_iff.mpr ⟨front, back, rfl, fun member hmember => bne_iff_ne.mpr ?_⟩
    rintro rfl
    rw [List.map_append, List.map_cons, List.perm_middle.nodup_iff] at h
    have hname : member.1 ∈ front.map Prod.fst := List.mem_map.mpr ⟨member, hmember, rfl⟩
    exact (List.nodup_cons.mp h).1 (List.mem_append_left _ hname)

theorem isSome_lookup_iff {α : Type} {found : List (String × α)} {name : String} :
    (found.lookup name).isSome = true ↔ name ∈ found.map Prod.fst := by
  simp [List.lookup_isSome_iff]

theorem collect_congr {fields : List (String × Shape)} {found others : List (String × Json)}
    (h : ∀ name, found.lookup name = others.lookup name) :
    collect found fields = collect others fields := by
  induction fields with
  | nil => rfl
  | cons field fields ih =>
    obtain ⟨name, shape⟩ := field
    rw [collect, collect, h name, ih]

/-- **The order in which members are found does not matter.** -/
theorem recordOf_perm {fields : List (String × Shape)} {found others : List (String × Json)}
    (h : found.Perm others) : recordOf fields found = recordOf fields others := by
  have hnames : (found.map Prod.fst).Perm (others.map Prod.fst) := h.map Prod.fst
  by_cases hnodup : (found.map Prod.fst).Nodup
  · have hothers : (others.map Prod.fst).Nodup := hnames.nodup_iff.mp hnodup
    have hcollect : collect found fields = collect others fields := by
      refine collect_congr fun name => Option.ext fun value => ?_
      rw [lookup_eq_some_iff_mem hnodup, lookup_eq_some_iff_mem hothers, h.mem_iff]
    rw [recordOf, recordOf, if_pos hnodup, if_pos hothers, hcollect]
  · have hothers : ¬ (others.map Prod.fst).Nodup := mt hnames.nodup_iff.mpr hnodup
    rw [recordOf, recordOf, if_neg hnodup, if_neg hothers]

/-! ## Values of another sort -/

/-- A reader of a value gives up at a byte that does not start one. -/
theorem exists_readFrom_eq_error {shape : Shape} {b : UInt8} {bytes rest : Bytes} (steps : Nat)
    (hcore : shape.isCore = true) (hbytes : skipBlanks bytes = b :: rest)
    (hb : ¬ shape.MayStart b) : ∃ fault, shape.readFrom steps bytes = .error fault := by
  cases steps with
  | zero =>
    rw [Shape.readFrom]
    exact ⟨_, rfl⟩
  | succ steps =>
    refine ⟨unexpected (b :: rest), ?_⟩
    cases shape with
    | text =>
      have htext : ¬ b = 0x22 := hb
      rw [Shape.readFrom, hbytes, readTextValue, if_neg htext]
    | int64 =>
      have hnumeral : ¬ (b = 0x2D ∨ isDigit b = true) := hb
      rw [Shape.readFrom, hbytes, readIntValue, if_neg hnumeral]
    | optional shape => cases hcore
    | list item =>
      have hlist : ¬ b = 0x5B := hb
      rw [Shape.readFrom.eq_def]
      simp only [hbytes, if_neg hlist]
    | record fields =>
      obtain ⟨hlist, hobject⟩ := not_or.mp hb
      rw [Shape.readFrom.eq_def]
      simp only [hbytes, if_neg hlist, if_neg hobject]

/-! ## What stands next -/

section

variable {behind : List Token} {bytes : Bytes}

/-- A list without further items is closed. -/
theorem exists_nextItem_nil {first : Bool}
    (h : Spells true (itemTokens first [] ++ behind) bytes) :
    ∃ rest, Spells true behind rest ∧ nextItem first bytes = .ok (none, rest) := by
  rw [itemTokens] at h
  obtain ⟨rest, hbytes, hrest⟩ := h.next
  rw [Token.bytes, List.singleton_append] at hbytes
  refine ⟨rest, hrest, ?_⟩
  rw [nextItem, hbytes]
  exact if_pos rfl

/-- The next item of a list stands behind its separator. -/
theorem exists_nextItem_cons {first : Bool} {item : Source} {items : List Source}
    (h : Spells true (itemTokens first (item :: items) ++ behind) bytes) :
    ∃ start, Spells true (item.tokens ++ (itemTokens false items ++ behind)) start ∧
      nextItem first bytes = .ok (some start, []) := by
  rw [itemTokens] at h
  simp only [List.append_assoc] at h
  cases first with
  | true =>
    obtain ⟨b, rest, hbytes, hb⟩ := Spells.exists_start h
    refine ⟨b :: rest, hbytes ▸ Spells.skipBlanks h, ?_⟩
    rw [nextItem, hbytes]
    exact (if_neg (hb.ne_closing .list)).trans (if_pos rfl)
  | false =>
    obtain ⟨after, hbytes, hafter⟩ := h.next
    obtain ⟨b, rest, hrest, hb⟩ := hafter.exists_start
    refine ⟨b :: rest, hrest ▸ hafter.skipBlanks, ?_⟩
    rw [Token.bytes, List.singleton_append] at hbytes
    have hclose : b ≠ 0x5D := hb.ne_closing .list
    rw [nextItem, hbytes]
    simp [hrest, hclose]

/-- What stands before another item closes no list. -/
theorem exists_start_itemTokens {first : Bool} {item : Source} {items : List Source}
    (h : Spells true (itemTokens first (item :: items) ++ behind) bytes) :
    ∃ b rest, skipBlanks bytes = b :: rest ∧ b ≠ 0x5D := by
  rw [itemTokens] at h
  simp only [List.append_assoc] at h
  cases first with
  | true =>
    obtain ⟨b, rest, hbytes, hb⟩ := Spells.exists_start h
    exact ⟨b, rest, hbytes, hb.ne_closing .list⟩
  | false =>
    obtain ⟨rest, hbytes, -⟩ := h.next
    exact ⟨0x2C, rest, hbytes, by decide⟩

/-- An object without further members is closed. -/
theorem exists_nextName_nil {first : Bool}
    (h : Spells true (memberTokens first [] ++ behind) bytes) :
    ∃ rest, Spells true behind rest ∧ nextName first bytes = .ok (none, rest) := by
  rw [memberTokens] at h
  obtain ⟨rest, hbytes, hrest⟩ := h.next
  rw [Token.bytes, List.singleton_append] at hbytes
  refine ⟨rest, hrest, ?_⟩
  rw [nextName, hbytes]
  exact if_pos rfl

/-- The name of the next member of an object stands behind its separator. -/
theorem finds_nextName_cons {first : Bool} {name : List Piece} {value : Source}
    {members : List (List Piece × Source)}
    (h : Spells true (memberTokens first ((name, value) :: members) ++ behind) bytes) :
    Finds (nextName first bytes) ((contentOf name).map some)
      (.colon :: (value.tokens ++ (memberTokens false members ++ behind))) := by
  rw [memberTokens] at h
  simp only [List.append_assoc, List.cons_append] at h
  cases first with
  | true =>
    obtain ⟨rest, hbytes, hrest⟩ := Spells.next h
    rw [Token.bytes, List.cons_append] at hbytes
    have hname := (finds_readText name hrest).map some
    rw [nextName, hbytes]
    simpa using hname
  | false =>
    obtain ⟨after, hbytes, hafter⟩ := h.next
    obtain ⟨rest, hname, hrest⟩ := hafter.next
    rw [Token.bytes, List.singleton_append] at hbytes
    rw [Token.bytes, List.cons_append] at hname
    have hread := (finds_readText name hrest).map some
    rw [nextName, hbytes]
    simpa [hname] using hread

/-- Behind a name stands a colon. -/
theorem exists_afterColon (h : Spells true (.colon :: behind) bytes) :
    ∃ rest, Spells true behind rest ∧ afterColon bytes = .ok rest := by
  obtain ⟨rest, hbytes, hrest⟩ := h.next
  rw [Token.bytes, List.singleton_append] at hbytes
  refine ⟨rest, hrest, ?_⟩
  rw [afterColon, hbytes]
  exact if_pos rfl

end

/-! ## Values -/

/-- Whether a reader of the shape finds in the tree what there is to find, in so many steps less than
twice the tokens. -/
def Reads (slack : Nat) (shape : Shape) (source : Source) : Prop :=
  ∀ steps ⦃behind bytes⦄, 2 * source.tokens.length ≤ steps + slack → Follows behind →
    Spells true (source.tokens ++ behind) bytes →
      Finds (shape.readFrom steps bytes) (source.fit? shape) behind

/-- The items of a list. -/
def ReadsItems (item : Shape) (first : Bool) (items : List Source) : Prop :=
  ∀ steps done ⦃behind bytes⦄, 2 * (itemTokens first items).length ≤ steps →
    Spells true (itemTokens first items ++ behind) bytes →
      Finds (readItems steps item first done bytes)
        ((fitItems? item items).map fun values => .list (done.reverse ++ values)) behind

/-- The members of a record that is written as a list. -/
def ReadsFields (fields : List (String × Shape)) (first : Bool) (items : List Source) : Prop :=
  ∀ steps done ⦃behind bytes⦄, 2 * (itemTokens first items).length ≤ steps →
    Spells true (itemTokens first items ++ behind) bytes →
      Finds (readFields steps fields first done bytes)
        ((fitFields? fields items).map fun values => .object (done.reverse ++ values)) behind

/-- The members of a record that is written as an object. -/
def ReadsMembers (fields : List (String × Shape)) (first : Bool)
    (members : List (List Piece × Source)) : Prop :=
  ∀ steps found ⦃behind bytes⦄, (found.map Prod.fst).Nodup →
    2 * (memberTokens first members).length ≤ steps →
    Spells true (memberTokens first members ++ behind) bytes →
      Finds (readMembers steps fields first found bytes)
        ((fitMembers? fields members).bind fun more => recordOf fields (more.reverse ++ found)) behind

/-- A value of another sort is not read. -/
theorem reads_of_unfit {shape : Shape} {source : Source} (hcore : shape.isCore = true)
    (hfit : source.fit? shape = none) (hstart : ∀ b, source.MayStart b → ¬ shape.MayStart b) :
    Reads 1 shape source := by
  intro steps behind bytes _ _ h
  obtain ⟨b, rest, hbytes, hb⟩ := h.exists_start
  rw [hfit]
  exact exists_readFrom_eq_error steps hcore hbytes (hstart b hb)

/-- Only the word `null` starts with its first letter. -/
theorem Source.MayStart.ne_null {source : Source} {b : UInt8} (h : source.MayStart b)
    (hnull : source ≠ .word .null) : b ≠ 0x6E := by
  cases source with
  | word w =>
    obtain rfl : b = w.first := h
    cases w with
    | null => exact absurd rfl hnull
    | yes => decide
    | no => decide
  | number n => exact StartsNumeral.ne h (by decide) rfl
  | text pieces =>
    obtain rfl : b = 0x22 := h
    decide
  | list items =>
    obtain rfl : b = 0x5B := h
    decide
  | object members =>
    obtain rfl : b = 0x7B := h
    decide

theorem Source.fit?_optional {shape : Shape} {source : Source} (hcore : shape.isCore = true)
    (hnull : source ≠ .word .null) : source.fit? (.optional shape) = source.fit? shape := by
  have hshape : (Shape.optional shape).core = shape.core := by
    cases shape with
    | optional shape => cases hcore
    | _ => rfl
  cases source with
  | word w =>
    have hw : w ≠ .null := by
      rintro rfl
      exact hnull rfl
    rw [Source.fit?, Source.fit?, if_neg fun h => hw h.1, if_neg fun h => hw h.1]
  | _ => rw [Source.fit?, Source.fit?, hshape]

/-- A value is read from its first token on. -/
theorem reads_of_first {shape : Shape} {source : Source} {token : Token} {tokens : List Token}
    (htokens : source.tokens = token :: tokens)
    (h : ∀ steps bytes rest behind, skipBlanks bytes = token.bytes ++ rest →
      2 * tokens.length ≤ steps → Follows behind → Spells true (tokens ++ behind) rest →
        Finds (shape.readFrom (steps + 1) bytes) (source.fit? shape) behind) :
    Reads 1 shape source := by
  intro steps behind bytes hsteps hbehind hbytes
  rw [htokens] at hsteps hbytes
  rw [List.length_cons] at hsteps
  obtain ⟨k, rfl⟩ : ∃ k, steps = k + 1 := ⟨steps - 1, by omega⟩
  obtain ⟨rest, hstart, hrest⟩ := hbytes.next
  exact h k bytes rest behind hstart (by omega) hbehind hrest

theorem reads_text (pieces : List Piece) : Reads 1 .text (.text pieces) := by
  refine reads_of_first (by rw [Source.tokens]) fun k bytes rest behind hbytes _ _ hrest => ?_
  rw [Token.bytes, List.cons_append] at hbytes
  rw [Shape.readFrom, hbytes, readTextValue, if_pos rfl]
  exact (finds_readText pieces hrest).map Json.text

theorem reads_int64 (number : Number) : Reads 1 .int64 (.number number) := by
  refine reads_of_first (by rw [Source.tokens]) fun k bytes rest behind hbytes _ hbehind hrest => ?_
  have hdelimits : Delimits rest := Spells.delimits hrest hbehind
  have hscan := number.scanNumeral_bytes .truncated hdelimits
  obtain ⟨b, bs, hbs, hb⟩ := number.exists_bytes_eq_cons
  have hnumeral : b = 0x2D ∨ isDigit b = true := hb
  have hfit : (Source.number number).fit? .int64 = number.numeral.int64?.map .int := rfl
  rw [Token.bytes, hbs, List.cons_append] at hbytes
  rw [hbs, List.cons_append] at hscan
  rw [Shape.readFrom, hbytes, readIntValue, if_pos hnumeral, readNumeral, hscan, hfit,
    Numeral.int64?]
  cases hhuge : number.numeral.isHuge with
  | true => exact ⟨.malformed, by simp [hhuge, bind, Except.bind]⟩
  | false =>
    cases hinteger : number.numeral.integer? with
    | none => exact ⟨.mismatch, by simp [hhuge, hinteger, bind, Except.bind]⟩
    | some n =>
      rw [if_neg Bool.false_ne_true, Option.filter_some]
      by_cases hn : isInt64 n = true
      · rw [if_pos hn]
        exact ⟨rest, by simp [hhuge, hinteger, hn, bind, Except.bind], hrest⟩
      · rw [if_neg hn]
        exact ⟨.mismatch, by simp [hhuge, hinteger, hn, bind, Except.bind]⟩

/-- `null` stands for an optional value that is left out; anything else is read as a value. -/
theorem Reads.optional {shape : Shape} {source : Source} (hcore : shape.isCore = true)
    (h : Reads 1 shape source) : Reads 0 (.optional shape) source := by
  intro steps behind bytes hsteps hbehind hbytes
  obtain ⟨b, rest, hstart, hb⟩ := hbytes.exists_start
  have hpos := source.length_tokens_pos
  obtain ⟨k, rfl⟩ : ∃ k, steps = k + 1 := ⟨steps - 1, by omega⟩
  rw [Shape.readFrom.eq_def]
  simp only [hstart]
  by_cases hnull : source = .word .null
  · subst hnull
    rw [Source.tokens] at hbytes
    obtain ⟨after, hword, hafter⟩ := hbytes.next
    rw [Token.bytes, List.cons_append, hstart] at hword
    obtain ⟨hb, hrest⟩ := List.cons.inj hword
    have hfirst : b = 0x6E := hb
    have hfit : (Source.word .null).fit? (.optional shape) = some .null := by
      rw [Source.fit?]
      exact if_pos ⟨rfl, rfl⟩
    have hscan : scanWord nullRest rest = .ok after := by
      rw [hrest]
      exact scanWord_append nullRest after
    rw [if_pos hfirst, hscan, hfit]
    exact ⟨after, rfl, hafter⟩
  · rw [if_neg (hb.ne_null hnull), Source.fit?_optional hcore hnull, ← hstart]
    exact h k (by omega) hbehind hbytes.skipBlanks

/-! ### Lists -/

theorem readsItems_nil (item : Shape) (first : Bool) : ReadsItems item first [] := by
  intro steps done behind bytes hsteps h
  have hpos := length_itemTokens_pos first []
  obtain ⟨k, rfl⟩ : ∃ k, steps = k + 1 := ⟨steps - 1, by omega⟩
  obtain ⟨rest, hrest, hnext⟩ := exists_nextItem_nil h
  refine ⟨rest, ?_, hrest⟩
  rw [readItems, hnext]
  simp only [List.append_nil]

theorem ReadsItems.cons {item : Shape} {source : Source} {items : List Source} (first : Bool)
    (hitem : Reads 0 item source) (hitems : ReadsItems item false items) :
    ReadsItems item first (source :: items) := by
  intro steps done behind bytes hsteps h
  have hpos := source.length_tokens_pos
  have hend := length_itemTokens_pos false items
  rw [itemTokens] at hsteps
  simp only [List.length_append] at hsteps
  obtain ⟨k, rfl⟩ : ∃ k, steps = k + 1 := ⟨steps - 1, by omega⟩
  obtain ⟨start, hstart, hnext⟩ := exists_nextItem_cons h
  have hvalue := hitem k (by omega) (follows_itemTokens items behind) hstart
  rw [readItems, hnext, fitItems?, Option.map_bind]
  refine hvalue.bind (fun fault hfault => by simp only [hfault]) fun value rest hread hrest => ?_
  have hvalues := hitems k (value :: done) (by omega) hrest
  simp only [hread]
  simpa [Function.comp_def] using hvalues

theorem readsFields_nil (fields : List (String × Shape)) (first : Bool) :
    ReadsFields fields first [] := by
  intro steps done behind bytes hsteps h
  have hpos := length_itemTokens_pos first []
  obtain ⟨k, rfl⟩ : ∃ k, steps = k + 1 := ⟨steps - 1, by omega⟩
  obtain ⟨rest, hrest, hnext⟩ := exists_nextItem_nil h
  cases fields with
  | nil =>
    rw [itemTokens] at h
    obtain ⟨rest, hbytes, hrest⟩ := h.next
    rw [Token.bytes, List.singleton_append] at hbytes
    have hafter : afterList bytes = .ok rest := by
      rw [afterList, hbytes]
      exact if_pos rfl
    refine ⟨rest, ?_, hrest⟩
    rw [readFields, hafter]
    simp only [List.append_nil]
  | cons field fields =>
    refine ⟨.mismatch, ?_⟩
    rw [readFields, hnext]

theorem ReadsFields.cons {fields : List (String × Shape)} {source : Source} {items : List Source}
    (first : Bool) (hitem : ∀ field ∈ fields.head?, Reads 0 field.2 source)
    (hitems : ReadsFields fields.tail false items) : ReadsFields fields first (source :: items) := by
  intro steps done behind bytes hsteps h
  have hpos := source.length_tokens_pos
  have hend := length_itemTokens_pos false items
  rw [itemTokens] at hsteps
  simp only [List.length_append] at hsteps
  obtain ⟨k, rfl⟩ : ∃ k, steps = k + 1 := ⟨steps - 1, by omega⟩
  cases fields with
  | nil =>
    obtain ⟨b, rest, hbytes, hb⟩ := exists_start_itemTokens h
    refine ⟨.malformed, ?_⟩
    have hafter : afterList bytes = .error .malformed := by
      rw [afterList, hbytes]
      exact if_neg hb
    rw [readFields, hafter]
  | cons field fields =>
    obtain ⟨name, shape⟩ := field
    obtain ⟨start, hstart, hnext⟩ := exists_nextItem_cons h
    have hvalue :=
      hitem (name, shape) rfl k (by omega) (follows_itemTokens items behind) hstart
    rw [readFields, hnext, fitFields?, Option.map_bind]
    refine hvalue.bind (fun fault hfault => by simp only [hfault]) fun value rest hread hrest => ?_
    have hvalues := hitems k ((name, value) :: done) (by omega) hrest
    simp only [hread]
    simpa [Function.comp_def] using hvalues

theorem ReadsItems.list {item : Shape} {items : List Source} (h : ReadsItems item true items) :
    Reads 1 (.list item) (.list items) := by
  refine reads_of_first (by rw [Source.tokens]) fun k bytes rest behind hbytes hsteps _ hrest => ?_
  have hvalues := h k [] hsteps hrest
  rw [Shape.readFrom.eq_def, hbytes]
  exact hvalues

/-- A record may be written as the list of its members. -/
theorem ReadsFields.list {fields : List (String × Shape)} {items : List Source}
    (h : ReadsFields fields true items) : Reads 1 (.record fields) (.list items) := by
  refine reads_of_first (by rw [Source.tokens]) fun k bytes rest behind hbytes hsteps _ hrest => ?_
  have hvalues := h k [] hsteps hrest
  rw [Shape.readFrom.eq_def, hbytes]
  exact hvalues

/-! ### Objects -/

theorem readsMembers_nil (fields : List (String × Shape)) (first : Bool) :
    ReadsMembers fields first [] := by
  intro steps found behind bytes hfound hsteps h
  have hpos : 0 < (memberTokens first []).length := Nat.succ_pos _
  obtain ⟨k, rfl⟩ : ∃ k, steps = k + 1 := ⟨steps - 1, by omega⟩
  obtain ⟨rest, hrest, hnext⟩ := exists_nextName_nil h
  have hrecord : recordOf fields found = (collect found fields).toOption.map .object := by
    rw [recordOf, if_pos hfound]
  rw [readMembers, hnext, fitMembers?, Option.bind_some, List.reverse_nil, List.nil_append, hrecord]
  cases hcollect : collect found fields with
  | error fault => exact ⟨fault, rfl⟩
  | ok members => exact ⟨rest, rfl, hrest⟩

/-- A name that has been found before makes no record, whatever follows. -/
theorem recordOf_of_twice {fields : List (String × Shape)} {found others : List (String × Json)}
    {name : String} {value : Json} (h : (found.lookup name).isSome = true) :
    recordOf fields (((name, value) :: others).reverse ++ found) = none := by
  refine if_neg fun hnodup => ?_
  rw [List.reverse_cons, List.append_assoc, List.map_append] at hnodup
  have htail := (List.nodup_append.mp hnodup).2.1
  exact (List.nodup_cons.mp htail).1 (isSome_lookup_iff.mp h)

/-- The name of a member is followed by its value, whether the value is read or skipped. -/
theorem ReadsMembers.cons {fields : List (String × Shape)} {pieces : List Piece} {source : Source}
    {members : List (List Piece × Source)} (first : Bool)
    (hvalue : ∀ name shape, fields.lookup name = some shape → Reads 0 shape source)
    (hmembers : ReadsMembers fields false members) :
    ReadsMembers fields first ((pieces, source) :: members) := by
  intro steps found behind bytes hfound hsteps h
  rw [memberTokens] at hsteps
  simp only [List.length_append, List.length_cons] at hsteps
  obtain ⟨k, rfl⟩ : ∃ k, steps = k + 1 := ⟨steps - 1, by omega⟩
  have hname := finds_nextName_cons h
  rw [fitMembers?]
  cases hcontent : contentOf pieces with
  | none =>
    rw [hcontent] at hname
    obtain ⟨fault, hfault⟩ := hname
    refine ⟨fault, ?_⟩
    rw [readMembers, hfault]
  | some name =>
    rw [hcontent] at hname
    obtain ⟨rest, hnext, hrest⟩ := hname
    obtain ⟨start, hstart, hcolon⟩ := exists_afterColon hrest
    rw [readMembers, hnext, Option.bind_some]
    cases hlookup : fields.lookup name with
    | none =>
      -- Nobody asked for this member.
      have hskips : 2 * source.tokens.length ≤ k := by omega
      obtain ⟨rest, hrest, hskip⟩ := exists_skipValue_eq hskips
        (follows_memberTokens members behind) hstart
      have hothers := hmembers k found hfound (by omega) hrest
      simpa only [hlookup, hcolon, hskip] using hothers
    | some shape =>
      by_cases htwice : (found.lookup name).isSome = true
      · -- Nothing is read any more, and nothing would be found.
        have hfit : ((source.fit? shape).bind fun value =>
            (fitMembers? fields members).map ((name, value) :: ·)).bind
              (fun more => recordOf fields (more.reverse ++ found)) = none := by
          refine Option.bind_eq_none_iff.mpr fun more hmore => ?_
          obtain ⟨value, -, hmap⟩ := Option.bind_eq_some_iff.mp hmore
          obtain ⟨others, -, rfl⟩ := Option.map_eq_some_iff.mp hmap
          exact recordOf_of_twice htwice
        simp only [hlookup, if_pos htwice, hfit]
        exact ⟨.mismatch, rfl⟩
      · have hread := hvalue name shape hlookup k (by omega)
          (follows_memberTokens members behind) hstart
        simp only [hlookup, if_neg htwice, hcolon]
        rw [Option.bind_assoc]
        refine hread.bind (fun fault hfault => by simp only [hfault]) fun value rest hread hrest => ?_
        have hnodup : (((name, value) :: found).map Prod.fst).Nodup :=
          List.nodup_cons.mpr ⟨mt isSome_lookup_iff.mpr htwice, hfound⟩
        have hothers := hmembers k _ hnodup (by omega) hrest
        simp only [hread]
        simpa [Option.bind_map, Function.comp_def] using hothers

theorem ReadsMembers.object {fields : List (String × Shape)} {members : List (List Piece × Source)}
    (h : ReadsMembers fields true members) : Reads 1 (.record fields) (.object members) := by
  refine reads_of_first (by rw [Source.tokens]) fun k bytes rest behind hbytes hsteps _ hrest => ?_
  have hvalues := h k [] List.nodup_nil hsteps hrest
  have hfit : (Source.object members).fit? (.record fields)
      = (fitMembers? fields members).bind fun more => recordOf fields (more.reverse ++ []) := by
    have hrecord : recordOf fields = fun more => recordOf fields (more.reverse ++ []) := by
      funext more
      rw [List.append_nil]
      exact recordOf_perm (List.reverse_perm more).symm
    rw [← hrecord]
    rfl
  rw [Shape.readFrom.eq_def, hbytes, hfit]
  exact hvalues

/-! ### All values -/

/-- A reader of values that are asked for optionally needs a step more. -/
theorem reads_of_core {shape : Shape} {source : Source} (hflat : shape.isFlat = true)
    (h : ∀ shape : Shape, shape.isCore = true → shape.isFlat = true → Reads 1 shape source) :
    Reads 0 shape source := by
  cases hshape : shape.isCore with
  | true =>
    intro steps behind bytes hsteps
    exact h shape hshape hflat steps (Nat.le_succ_of_le hsteps)
  | false =>
    cases shape with
    | optional shape =>
      obtain ⟨hcore, hinner⟩ := Bool.and_eq_true_iff.mp hflat
      exact (h shape hcore hinner).optional hcore
    | _ => cases hshape

theorem Shape.isFlat_of_mem {fields : List (String × Shape)} (h : fieldsFlat fields = true)
    {field : String × Shape} (hmem : field ∈ fields) : field.2.isFlat = true := by
  induction fields with
  | nil => cases hmem
  | cons head fields ih =>
    obtain ⟨hhead, htail⟩ := Bool.and_eq_true_iff.mp h
    rcases List.mem_cons.mp hmem with rfl | hmem
    · exact hhead
    · exact ih htail hmem

mutual

/-- **A reader finds in a document what its tree holds**, whatever blanks are between the tokens. -/
theorem reads_core (source : Source) {shape : Shape} (hcore : shape.isCore = true)
    (hflat : shape.isFlat = true) : Reads 1 shape source := by
  match source with
  | .word w =>
    refine reads_of_unfit hcore ?_ fun b hb hshape => ?_
    · rw [Source.fit?, hcore]
      exact if_neg fun h => nomatch h.2
    · obtain rfl : b = w.first := hb
      cases shape with
      | optional shape => cases hcore
      | _ => cases w <;> simp [Shape.MayStart, StartsNumeral, Word.first, isDigit] at hshape
  | .number n =>
    cases shape with
    | int64 => exact reads_int64 n
    | optional shape => cases hcore
    | _ =>
      refine reads_of_unfit hcore rfl fun b hb hshape => ?_
      have hnumeral : StartsNumeral b := hb
      rcases hshape with rfl | rfl <;> simp [StartsNumeral, isDigit] at hnumeral
  | .text pieces =>
    cases shape with
    | text => exact reads_text pieces
    | optional shape => cases hcore
    | _ =>
      refine reads_of_unfit hcore rfl fun b hb hshape => ?_
      obtain rfl : b = 0x22 := hb
      simp [Shape.MayStart, StartsNumeral, isDigit] at hshape
  | .list items =>
    cases shape with
    | list item =>
      have hitem : item.isFlat = true := hflat
      exact (reads_items true items hitem).list
    | record fields => exact (reads_fields true items hflat).list
    | optional shape => cases hcore
    | _ =>
      refine reads_of_unfit hcore rfl fun b hb hshape => ?_
      obtain rfl : b = 0x5B := hb
      simp [Shape.MayStart, StartsNumeral, isDigit] at hshape
  | .object members =>
    cases shape with
    | record fields => exact (reads_members true members hflat).object
    | optional shape => cases hcore
    | _ =>
      refine reads_of_unfit hcore rfl fun b hb hshape => ?_
      obtain rfl : b = 0x7B := hb
      simp [Shape.MayStart, StartsNumeral, isDigit] at hshape

theorem reads_items (first : Bool) (items : List Source) {item : Shape}
    (hflat : item.isFlat = true) : ReadsItems item first items := by
  match items with
  | [] => exact readsItems_nil item first
  | source :: items =>
    have hitem : Reads 0 item source := reads_of_core hflat fun _ => reads_core source
    exact .cons first hitem (reads_items false items hflat)

theorem reads_fields (first : Bool) (items : List Source) {fields : List (String × Shape)}
    (hflat : Shape.fieldsFlat fields = true) : ReadsFields fields first items := by
  match items with
  | [] => exact readsFields_nil fields first
  | source :: items =>
    refine .cons first (fun field hfield => ?_) (reads_fields false items ?_)
    · have hshape := Shape.isFlat_of_mem hflat (List.mem_of_mem_head? hfield)
      exact reads_of_core hshape fun _ => reads_core source
    · cases fields with
      | nil => rfl
      | cons field fields => exact (Bool.and_eq_true_iff.mp hflat).2

theorem reads_members (first : Bool) (members : List (List Piece × Source))
    {fields : List (String × Shape)} (hflat : Shape.fieldsFlat fields = true) :
    ReadsMembers fields first members := by
  match members with
  | [] => exact readsMembers_nil fields first
  | (pieces, source) :: members =>
    refine .cons first (fun name shape hlookup => ?_) (reads_members false members hflat)
    obtain ⟨front, back, rfl, -⟩ := List.lookup_eq_some_iff.mp hlookup
    have hshape : shape.isFlat = true :=
      Shape.isFlat_of_mem hflat (List.mem_append_right front List.mem_cons_self)
    exact reads_of_core hshape fun _ => reads_core source

end

/-! ## Documents -/

/-- **What is read from a document is told by its tree**, and nothing is read where the tree does not
fit. -/
theorem toOption_read {shape : Shape} {source : Source} {bytes : Bytes}
    (hflat : shape.isFlat = true) (h : Spells true source.tokens bytes) :
    (shape.read bytes).toOption = source.fit? shape := by
  have hreads : Reads 0 shape source := reads_of_core hflat fun _ => reads_core source
  have hlength := h.length_le
  rw [← List.append_nil source.tokens] at h
  have hfinds := hreads (2 * bytes.length + 8) (by omega) .nil h
  cases hfit : source.fit? shape with
  | none =>
    rw [hfit] at hfinds
    obtain ⟨fault, hfault⟩ := hfinds
    rw [Shape.read, hfault]
    rfl
  | some value =>
    rw [hfit] at hfinds
    obtain ⟨rest, hvalue, hrest⟩ := hfinds
    rw [Shape.read, hvalue]
    simp [bind, Except.bind, hrest.skipBlanks_eq_nil, Except.toOption]

end CodeGrant.Json
