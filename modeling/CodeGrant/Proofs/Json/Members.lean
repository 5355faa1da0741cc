import Mathlib.Data.Multiset.AddSub
import CodeGrant.Proofs.Json.Read

/-! # The members of a record

A record that is written as an object is read member by member (`Json.fitMember?`): a member with a
name that is not asked for gives nothing, and one that is asked for gives its value.  So members that
nobody asked for may stand anywhere (`Json.foundIn_append_of_unknown`), the members may come in any
order (`Json.foundIn_perm`), and a member that is asked for stands once or not at all
(`Json.valuesNamed_of_nodup`).  Names count as they are read, however they are escaped. -/

namespace CodeGrant.Json

/-- The values of the members with a name. -/
def valuesNamed (name : String) (members : List (List Piece × Source)) : List Source :=
  members.filterMap fun member => if contentOf member.1 = some name then some member.2 else none

/-- What one member gives to a record. -/
def fitMember? (fields : List (String × Shape)) (member : List Piece × Source) :
    Option (List (String × Json)) :=
  (contentOf member.1).bind fun name =>
    match fields.lookup name with
    | none => some []
    | some shape => (member.2.fit? shape).map fun value => [(name, value)]

/-- What is found in the members of an object, in no order. -/
def foundIn (fields : List (String × Shape)) (members : List (List Piece × Source)) :
    Option (Multiset (String × Json)) :=
  (fitMembers? fields members).map (↑)

section

variable {fields : List (String × Shape)} {members others : List (List Piece × Source)}

theorem fitMembers?_cons (fields : List (String × Shape)) (member : List Piece × Source)
    (members : List (List Piece × Source)) : fitMembers? fields (member :: members) =
      (fitMember? fields member).bind fun front => (fitMembers? fields members).map (front ++ ·) := by
  obtain ⟨pieces, source⟩ := member
  rw [fitMembers?, fitMember?]
  cases contentOf pieces with
  | none => rfl
  | some name =>
    simp only [Option.bind_some]
    cases fields.lookup name with
    | none => simp
    | some shape => simp [Option.bind_map]

theorem foundIn_cons (fields : List (String × Shape)) (member : List Piece × Source)
    (members : List (List Piece × Source)) : foundIn fields (member :: members) =
      (fitMember? fields member).bind fun front =>
        (foundIn fields members).map (Multiset.ofList front + ·) := by
  simp [foundIn, fitMembers?_cons, Option.map_bind, Function.comp_def]

/-! ## The order of the members -/

/-- **Members are found in any order.** -/
theorem foundIn_perm (h : members.Perm others) : foundIn fields members = foundIn fields others := by
  induction h with
  | nil => rfl
  | cons member _ ih => rw [foundIn_cons, foundIn_cons, ih]
  | swap a b members =>
    simp only [foundIn_cons]
    cases fitMember? fields a with
    | none => cases fitMember? fields b <;> rfl
    | some front =>
      cases fitMember? fields b with
      | none => rfl
      | some next =>
        simp only [Option.bind_some, Option.map_map]
        congr 1
        funext found
        show Multiset.ofList next + (Multiset.ofList front + found)
          = Multiset.ofList front + (Multiset.ofList next + found)
        rw [← Multiset.add_assoc, Multiset.add_comm (Multiset.ofList next), Multiset.add_assoc]
  | trans _ _ ih₁ ih₂ => exact ih₁.trans ih₂

/-- What is found makes the record, whatever the order. -/
theorem fit?_object_of_foundIn_eq (h : foundIn fields members = foundIn fields others) :
    (Source.object members).fit? (.record fields) = (Source.object others).fit? (.record fields) := by
  have hfit (members : List (List Piece × Source)) : (Source.object members).fit? (.record fields)
      = (fitMembers? fields members).bind (recordOf fields) := rfl
  unfold foundIn at h
  rw [hfit, hfit]
  cases hmembers : fitMembers? fields members with
  | none =>
    rw [hmembers, Option.map_none, eq_comm, Option.map_eq_none_iff] at h
    rw [h]
  | some found =>
    rw [hmembers, Option.map_some] at h
    obtain ⟨more, hothers, hperm⟩ := Option.map_eq_some_iff.mp h.symm
    rw [hothers]
    exact recordOf_perm (Multiset.coe_eq_coe.mp hperm.symm)

/-! ## Members that nobody asked for -/

/-- Whether the name of a member is not asked for. -/
def IsUnknown (fields : List (String × Shape)) (member : List Piece × Source) : Prop :=
  ∃ name, contentOf member.1 = some name ∧ fields.lookup name = none

/-- **Members that nobody asked for give nothing**, whatever their values. -/
theorem foundIn_append_of_unknown (h : ∀ member ∈ others, IsUnknown fields member) :
    foundIn fields (others ++ members) = foundIn fields members := by
  induction others with
  | nil => rfl
  | cons other others ih =>
    obtain ⟨⟨name, hname, hlookup⟩, hothers⟩ := List.forall_mem_cons.mp h
    have hother : fitMember? fields other = some [] := by
      rw [fitMember?, hname, Option.bind_some, hlookup]
    rw [List.cons_append, foundIn_cons, hother, ih hothers]
    simp

/-! ## Members that are asked for -/

/-- What is found under a name is what its members give. -/
theorem valuesNamed_of_fitMembers? {name : String} {shape : Shape} {found : List (String × Json)}
    (hlookup : fields.lookup name = some shape) (h : fitMembers? fields members = some found) :
    (valuesNamed name members).map (Source.fit? shape)
      = (found.filter fun member => member.1 = name).map fun member => some member.2 := by
  induction members generalizing found with
  | nil =>
    rw [fitMembers?, Option.some.injEq] at h
    subst h
    rfl
  | cons member members ih =>
    obtain ⟨front, hfront, hmembers⟩ := Option.bind_eq_some_iff.mp (fitMembers?_cons _ _ _ ▸ h)
    obtain ⟨others, hothers, rfl⟩ := Option.map_eq_some_iff.mp hmembers
    obtain ⟨other, hother, hgiven⟩ := Option.bind_eq_some_iff.mp hfront
    have htail := ih hothers
    by_cases hname : other = name
    · subst hname
      rw [hlookup] at hgiven
      obtain ⟨value, hvalue, rfl⟩ := Option.map_eq_some_iff.mp hgiven
      simpa [valuesNamed, hother, hvalue] using htail
    · have hnone : (front.filter fun member => member.1 = name) = [] := by
        cases hfields : fields.lookup other with
        | none =>
          rw [hfields] at hgiven
          obtain rfl := Option.some.inj hgiven
          rfl
        | some shape =>
          rw [hfields] at hgiven
          obtain ⟨value, -, rfl⟩ := Option.map_eq_some_iff.mp hgiven
          simp [hname]
      rw [List.filter_append, hnone]
      simpa [valuesNamed, hother, hname] using htail

/-- In a list with one value a name, the members with a name are the one that is found under it. -/
theorem filter_eq_of_nodup {found : List (String × Json)} (name : String)
    (h : (found.map Prod.fst).Nodup) : (found.filter fun member => member.1 = name)
      = (found.lookup name).toList.map fun value => (name, value) := by
  induction found with
  | nil => rfl
  | cons member found ih =>
    obtain ⟨other, value⟩ := member
    obtain ⟨hother, hfound⟩ := List.nodup_cons.mp h
    by_cases hname : other = name
    · subst hname
      have hnone : found.lookup other = none := by
        rw [← Option.not_isSome_iff_eq_none, isSome_lookup_iff]
        exact hother
      simp [ih hfound, hnone]
    · have hlookup : ((other, value) :: found).lookup name = found.lookup name := by
        rw [List.lookup_cons, beq_false_of_ne (Ne.symm hname)]
      rw [hlookup, ← ih hfound]
      simp [hname]

/-- **A member that is asked for stands once or not at all**, and gives what is found under its
name. -/
theorem valuesNamed_of_nodup {name : String} {shape : Shape} {found : List (String × Json)}
    (hlookup : fields.lookup name = some shape) (h : fitMembers? fields members = some found)
    (hnodup : (found.map Prod.fst).Nodup) :
    (valuesNamed name members).map (Source.fit? shape) = (found.lookup name).toList.map some := by
  rw [valuesNamed_of_fitMembers? hlookup h, filter_eq_of_nodup name hnodup, List.map_map]
  rfl

/-- **No record is read where a member that is asked for stands twice.** -/
theorem fit?_object_of_twice {name : String} (hname : (fields.lookup name).isSome = true)
    (htwice : 2 ≤ (valuesNamed name members).length) :
    (Source.object members).fit? (.record fields) = none := by
  obtain ⟨shape, hlookup⟩ := Option.isSome_iff_exists.mp hname
  refine Option.bind_eq_none_iff.mpr fun found hfound => if_neg fun hnodup => ?_
  have hlength := congrArg List.length (valuesNamed_of_nodup hlookup hfound hnodup)
  rw [List.length_map, List.length_map] at hlength
  have hone : (found.lookup name).toList.length ≤ 1 := by cases found.lookup name <;> simp
  omega

/-- Members that may be left out count as `null` where they are. -/
theorem collect_of_optional {found : List (String × Json)}
    (h : ∀ field ∈ fields, field.2.isCore = false) : collect found fields =
      .ok (fields.map fun field => (field.1, (found.lookup field.1).getD .null)) := by
  induction fields with
  | nil => rfl
  | cons field fields ih =>
    obtain ⟨name, shape⟩ := field
    obtain ⟨hshape, hfields⟩ := List.forall_mem_cons.mp h
    have hmissing : shape.missing = .ok .null := by
      cases shape with
      | optional shape => rfl
      | _ => cases hshape
    rw [collect, ih hfields, hmissing]
    cases hvalue : found.lookup name <;> simp [hvalue, bind, Except.bind]

end

end CodeGrant.Json
