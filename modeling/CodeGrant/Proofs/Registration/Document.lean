import CodeGrant.Proofs.Json.Members
import CodeGrant.Registration

/-! # What a registration asks for

A document of registration is read by its tree (`RegistrationRequest.toOption_read`), so what is
asked for depends on nothing but the two members that are looked for.  In an object each stands once
or not at all (`RegistrationRequest.askedBy_of_read`): the redirect URIs are the texts of a list, in
its order, and the method is a text; `null` counts as nothing. -/

namespace CodeGrant

open Json (Piece Source Spells valuesNamed)

namespace Json

/-- The text that a tree stands for, if it is a text. -/
def Source.text? : Source → Option String
  | .text pieces => contentOf pieces
  | _ => none

/-- The texts of a tree that is a list of texts. -/
def Source.texts? : Source → Option (List String)
  | .list items => items.mapM Source.text?
  | _ => none

/-- An optional text is read where `null` stands or a text. -/
theorem cases_of_fit?_text {source : Source} {value : Json}
    (h : source.fit? (.optional .text) = some value) :
    (source = .word .null ∧ value = .null) ∨
      ∃ text, source.text? = some text ∧ value = .text text := by
  cases source with
  | word w =>
    rw [Source.fit?, Option.ite_none_right_eq_some] at h
    obtain ⟨⟨rfl, -⟩, hvalue⟩ := h
    exact .inl ⟨rfl, (Option.some.inj hvalue).symm⟩
  | text pieces =>
    obtain ⟨text, htext, rfl⟩ := Option.map_eq_some_iff.mp h
    exact .inr ⟨text, htext, rfl⟩
  | _ => cases h

theorem texts_of_fitItems? {sources : List Source} {items : List Json}
    (h : fitItems? .text sources = some items) :
    ∃ texts, sources.mapM Source.text? = some texts ∧ items = texts.map Json.text := by
  induction sources generalizing items with
  | nil =>
    rw [fitItems?, Option.some.injEq] at h
    exact ⟨[], rfl, h.symm⟩
  | cons source sources ih =>
    obtain ⟨value, hvalue, hitems⟩ := Option.bind_eq_some_iff.mp h
    obtain ⟨others, hothers, rfl⟩ := Option.map_eq_some_iff.mp hitems
    obtain ⟨texts, htexts, rfl⟩ := ih hothers
    cases source with
    | text pieces =>
      obtain ⟨text, htext, rfl⟩ := Option.map_eq_some_iff.mp hvalue
      have htext : (Source.text pieces).text? = some text := htext
      refine ⟨text :: texts, ?_, rfl⟩
      rw [List.mapM_cons, htext, htexts]
      rfl
    | word w =>
      rw [Source.fit?, Option.ite_none_right_eq_some] at hvalue
      obtain ⟨⟨-, hoptional⟩, -⟩ := hvalue
      cases hoptional
    | _ => cases hvalue

/-- An optional list of texts is read where `null` stands or a list of texts. -/
theorem cases_of_fit?_texts {source : Source} {value : Json}
    (h : source.fit? (.optional (.list .text)) = some value) :
    (source = .word .null ∧ value = .null) ∨
      ∃ texts, source.texts? = some texts ∧ value = .texts texts := by
  cases source with
  | word w =>
    rw [Source.fit?, Option.ite_none_right_eq_some] at h
    obtain ⟨⟨rfl, -⟩, hvalue⟩ := h
    exact .inl ⟨rfl, (Option.some.inj hvalue).symm⟩
  | list items =>
    obtain ⟨values, hvalues, rfl⟩ := Option.map_eq_some_iff.mp h
    obtain ⟨texts, htexts, rfl⟩ := texts_of_fitItems? hvalues
    exact .inr ⟨texts, htexts, rfl⟩
  | _ => cases h

end Json

namespace RegistrationRequest

/-- **What is asked for is told by the tree of the document.** -/
theorem toOption_read {source : Source} {bytes : Bytes} (h : Spells true source.tokens bytes) :
    (read bytes).toOption = (source.fit? shape).bind ofDocument? := by
  have hread := Json.toOption_read (by decide : shape.isFlat = true) h
  rw [← hread, read]
  cases shape.read bytes with
  | error fault => rfl
  | ok document =>
    cases hrequest : ofDocument? document <;>
      simp [hrequest, bind, Except.bind, Except.toOption]

/-- Whether the values of a member stand for something that may be left out: one value stands for
it, or for nothing. -/
def StandFor {α : Type} (read : Source → Option α) (values : List Source) : Option α → Prop
  | some a => ∃ value, values = [value] ∧ read value = some a
  | none => values = [] ∨ values = [.word .null]

/-- The members of an object ask for what a request holds. -/
structure AskedBy (request : RegistrationRequest) (members : List (List Piece × Source)) : Prop where
  uris : StandFor Source.texts? (valuesNamed "redirect_uris" members) request.redirectUris
  method : StandFor Source.text? (valuesNamed "token_endpoint_auth_method" members)
    request.authMethod

/-- What is taken from the value that was found is what the members stand for. -/
theorem standFor_of_found {α : Type} {fields : List (String × Json.Shape)}
    {members : List (List Piece × Source)} {found : List (String × Json)} {name : String}
    {item : Json.Shape} {read : Source → Option α} {write : α → Json}
    {take : Json → Option (Option α)} {asked : Option α}
    (hlookup : fields.lookup name = some (.optional item))
    (hfound : Json.fitMembers? fields members = some found) (hnodup : (found.map Prod.fst).Nodup)
    (hread : ∀ source value, source.fit? (.optional item) = some value →
      (source = .word .null ∧ value = .null) ∨ ∃ a, read source = some a ∧ value = write a)
    (hnull : take .null = some none) (hwrite : ∀ a, take (write a) = some (some a))
    (hasked : take ((found.lookup name).getD .null) = some asked) :
    StandFor read (valuesNamed name members) asked := by
  have hvalues := Json.valuesNamed_of_nodup hlookup hfound hnodup
  cases hvalue : found.lookup name with
  | none =>
    rw [hvalue, Option.getD_none, hnull, Option.some.injEq] at hasked
    rw [hvalue] at hvalues
    subst hasked
    exact .inl (List.map_eq_nil_iff.mp hvalues)
  | some value =>
    rw [hvalue, Option.getD_some] at hasked
    rw [hvalue] at hvalues
    obtain ⟨source, hsource, hfit⟩ := List.map_eq_singleton_iff.mp hvalues
    rcases hread source value hfit with ⟨rfl, rfl⟩ | ⟨a, ha, rfl⟩
    · rw [hnull, Option.some.injEq] at hasked
      subst hasked
      exact .inr hsource
    · rw [hwrite, Option.some.injEq] at hasked
      subst hasked
      exact ⟨source, hsource, ha⟩

theorem mapM_textOf? (texts : List String) : (texts.map Json.text).mapM textOf? = some texts := by
  induction texts with
  | nil => rfl
  | cons text texts ih =>
    rw [List.map_cons, List.mapM_cons, ih]
    rfl

/-- **What is read from an object is what its members ask for.** -/
theorem askedBy_of_read {request : RegistrationRequest} {members : List (List Piece × Source)}
    {bytes : Bytes} (h : Spells true (Source.object members).tokens bytes)
    (hread : read bytes = .ok request) : request.AskedBy members := by
  have htree := toOption_read h
  rw [hread] at htree
  obtain ⟨document, hfit, hrequest⟩ := Option.bind_eq_some_iff.mp htree.symm
  obtain ⟨found, hfound, hrecord⟩ := Option.bind_eq_some_iff.mp hfit
  obtain ⟨hnodup, hcollect⟩ := Option.ite_none_right_eq_some.mp hrecord
  have hdocument : document = .object
      [("redirect_uris", (found.lookup "redirect_uris").getD .null),
        ("token_endpoint_auth_method",
          (found.lookup "token_endpoint_auth_method").getD .null)] := by
    rw [Json.collect_of_optional (by decide)] at hcollect
    exact (Option.some.inj hcollect).symm
  rw [hdocument] at hrequest
  obtain ⟨uris, huris, hmethods⟩ := Option.bind_eq_some_iff.mp hrequest
  obtain ⟨method, hmethod, hrequest⟩ := Option.bind_eq_some_iff.mp hmethods
  obtain rfl := Option.some.inj hrequest
  constructor
  · refine standFor_of_found rfl hfound hnodup (fun _ _ => Json.cases_of_fit?_texts) rfl ?_ huris
    intro texts
    rw [Json.texts, urisOf?, mapM_textOf?, Option.map_some]
  · exact standFor_of_found rfl hfound hnodup (fun _ _ => Json.cases_of_fit?_text) rfl
      (fun _ => rfl) hmethod

/-! ## Which members count -/

/-- The two members that are read, and how. -/
def fields : List (String × Json.Shape) :=
  [("redirect_uris", .optional (.list .text)), ("token_endpoint_auth_method", .optional .text)]

theorem isSome_lookup_fields {name : String} : (fields.lookup name).isSome = true ↔
    name = "redirect_uris" ∨ name = "token_endpoint_auth_method" := by
  simp [fields]

/-- Whether a member is none of the two that are read, however its name is escaped. -/
def IsForeign (member : List Piece × Source) : Prop :=
  ∃ name, Json.contentOf member.1 = some name ∧ name ≠ "redirect_uris" ∧
    name ≠ "token_endpoint_auth_method"

theorem IsForeign.isUnknown {member : List Piece × Source} (h : IsForeign member) :
    Json.IsUnknown fields member := by
  obtain ⟨name, hname, huris, hmethod⟩ := h
  refine ⟨name, hname, Option.not_isSome_iff_eq_none.mp fun hread => ?_⟩
  exact (isSome_lookup_fields.mp hread).elim huris hmethod

section

variable {members others arranged : List (List Piece × Source)} {bytes bytes' : Bytes}

/-- **Members that are not read do not count**, whatever their values, and neither do the order of
the members and the blanks between the tokens. -/
theorem toOption_read_of_perm (hothers : ∀ member ∈ others, IsForeign member)
    (harranged : arranged.Perm (others ++ members))
    (h : Spells true (Source.object members).tokens bytes)
    (h' : Spells true (Source.object arranged).tokens bytes') :
    (read bytes').toOption = (read bytes).toOption := by
  have hunknown : ∀ member ∈ others, Json.IsUnknown fields member :=
    fun member hmember => (hothers member hmember).isUnknown
  have hfound : Json.foundIn fields arranged = Json.foundIn fields members :=
    (Json.foundIn_perm harranged).trans (Json.foundIn_append_of_unknown hunknown)
  have hfit : (Source.object arranged).fit? shape = (Source.object members).fit? shape :=
    Json.fit?_object_of_foundIn_eq hfound
  rw [toOption_read h', toOption_read h, hfit]

/-- **Nothing is read where one of the two members stands twice**, however its name is escaped. -/
theorem toOption_read_of_twice {name : String}
    (hname : name = "redirect_uris" ∨ name = "token_endpoint_auth_method")
    (htwice : 2 ≤ (valuesNamed name members).length)
    (h : Spells true (Source.object members).tokens bytes) : (read bytes).toOption = none := by
  have hfit : (Source.object members).fit? shape = none :=
    Json.fit?_object_of_twice (isSome_lookup_fields.mpr hname) htwice
  rw [toOption_read h, hfit, Option.bind_none]

end

end RegistrationRequest

end CodeGrant
