import Mathlib.Data.List.Forall2
import CodeGrant.Proofs.Json.Read
import CodeGrant.Proofs.Json.Written

/-! # What is written is read by its shape

A value is read from its text if its own tree fits the shape and gives the value again
(`Json.read_render_of_fit`).  Texts and integers of sixty-four bits do so, a list does if each item
does (`Json.fit?_list`), and a record does if its members are those of the shape, in their order, and
each of them does (`Json.fit?_record`). -/

namespace CodeGrant.Json

variable {shape : Shape} {fields : List (String × Shape)} {members : List (String × Json)}

/-- A value that its own tree gives back is read from its text. -/
theorem read_render_of_fit {value : Json} (hflat : shape.isFlat = true)
    (h : value.source.fit? shape = some value) :
    shape.read (Utf8.encode value.render) = .ok value := by
  have hread := toOption_read hflat (spells_render true value)
  rw [h] at hread
  cases hresult : shape.read (Utf8.encode value.render) with
  | error fault =>
    rw [hresult] at hread
    cases hread
  | ok found =>
    rw [hresult] at hread
    rw [Option.some.inj hread]

@[simp] theorem fit?_text (s : String) : (Json.text s).source.fit? .text = some (.text s) := by
  simp [source, Source.fit?, Shape.core]

@[simp] theorem fit?_int64 (n : Int64) :
    (Json.int n.toInt).source.fit? .int64 = some (.int n.toInt) := by
  simp [source, Source.fit?, Shape.core, int64?_ofInt (isInt64_toInt n)]

/-! ## Lists -/

/-- Items that fit are all read. -/
theorem fitItems?_itemSources {items : List Json}
    (h : ∀ item ∈ items, item.source.fit? shape = some item) :
    fitItems? shape (itemSources items) = some items := by
  induction items with
  | nil => rw [itemSources, fitItems?]
  | cons item items ih =>
    obtain ⟨hitem, hitems⟩ := List.forall_mem_cons.mp h
    rw [itemSources, fitItems?, hitem, Option.bind_some, ih hitems, Option.map_some]

/-- **A list fits if each item does.** -/
theorem fit?_list {items : List Json} (h : ∀ item ∈ items, item.source.fit? shape = some item) :
    (Json.list items).source.fit? (.list shape) = some (.list items) := by
  simp [source, Source.fit?, Shape.core, fitItems?_itemSources h]

/-! ## Records -/

/-- Whether a member is that of a field: it has the name, and its value fits. -/
def IsMemberOf (field : String × Shape) (member : String × Json) : Prop :=
  field.1 = member.1 ∧ member.2.source.fit? field.2 = some member.2

/-- Members whose names are known are found as they stand. -/
theorem fitMembers?_memberSources (h : ∀ member ∈ members, ∃ shape,
      fields.lookup member.1 = some shape ∧ member.2.source.fit? shape = some member.2) :
    fitMembers? fields (memberSources members) = some members := by
  induction members with
  | nil => rw [memberSources, fitMembers?]
  | cons member members ih =>
    obtain ⟨⟨shape, hlookup, hvalue⟩, hmembers⟩ := List.forall_mem_cons.mp h
    rw [memberSources, fitMembers?, contentOf_piecesOf, Option.bind_some, hlookup]
    simp only [hvalue, ih hmembers, Option.bind_some, Option.map_some]

section

variable (h : List.Forall₂ IsMemberOf fields members)

include h

theorem names_of_forall₂ : members.map Prod.fst = fields.map Prod.fst := by
  induction h with
  | nil => rfl
  | cons hmember _ ih => rw [List.map_cons, List.map_cons, hmember.1, ih]

theorem exists_field_of_forall₂ : ∀ member ∈ members, ∃ field ∈ fields, IsMemberOf field member := by
  induction h with
  | nil => nofun
  | cons hmember _ ih =>
    refine List.forall_mem_cons.mpr ⟨⟨_, List.mem_cons_self, hmember⟩, fun member hmem => ?_⟩
    obtain ⟨field, hfield, hfits⟩ := ih member hmem
    exact ⟨field, List.mem_cons_of_mem _ hfield, hfits⟩

/-- The fields are collected out of members that are found under their names. -/
theorem collect_of_forall₂ {found : List (String × Json)}
    (hfound : ∀ member ∈ members, found.lookup member.1 = some member.2) :
    collect found fields = .ok members := by
  induction h with
  | nil => rfl
  | cons hmember _ ih =>
    obtain ⟨hlookup, hfound⟩ := List.forall_mem_cons.mp hfound
    rw [collect, hmember.1, hlookup, ih hfound]
    rfl

/-- **A record fits if its members are those of its fields, in their order.** -/
theorem fit?_record (hnodup : (fields.map Prod.fst).Nodup) :
    (Json.object members).source.fit? (.record fields) = some (.object members) := by
  have hunique : (members.map Prod.fst).Nodup := names_of_forall₂ h ▸ hnodup
  have hmembers : fitMembers? fields (memberSources members) = some members := by
    refine fitMembers?_memberSources fun member hmember => ?_
    obtain ⟨⟨name, shape⟩, hfield, hname, hvalue⟩ := exists_field_of_forall₂ h member hmember
    exact ⟨shape, hname ▸ (lookup_eq_some_iff_mem hnodup).mpr hfield, hvalue⟩
  have hcollect : collect members fields = .ok members :=
    collect_of_forall₂ h fun _ hmember => (lookup_eq_some_iff_mem hunique).mpr hmember
  have hfit : (Json.object members).source.fit? (.record fields)
      = (fitMembers? fields (memberSources members)).bind (recordOf fields) := by
    rw [source]
    rfl
  rw [hfit, hmembers, Option.bind_some, recordOf, if_pos hunique, hcollect]
  rfl

end

end CodeGrant.Json
