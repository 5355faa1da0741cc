import CodeGrant.Proofs.Registration.Document
import CodeGrant.Proofs.Server.RegistrationDecision

/-! # A registration goes by two members

A client that registers may write its document as it likes: the registration looks at two members
and at nothing else, so other members may stand anywhere in the object, whatever their values, and
the members may come in any order and with any blanks between the tokens.  The answer stays the same
to the byte, and so does the store (`Server.registration_goes_by_members`).

What may not happen is that one of the two members comes again.  Which of the values would count is
not for the reader to say, so nothing is read at all; and since names count as they are read, no
escape hides a member that comes again. -/

namespace CodeGrant

open Json (Piece Source Spells Token piecesOf valuesNamed)
open RegistrationRequest (IsForeign)

/-- An object with these members is posted to the registration endpoint. -/
structure Arrival.PostsObject (a : Arrival) (bytes : Bytes)
    (members : List (List Piece × Source)) : Prop where
  posts : a.request.Posts .registration
  body : a.request.body = some bytes
  spells : Spells true (Source.object members).tokens bytes

namespace Server

variable (server : Server) (store : Store) {a b : Arrival} {bytes bytes' : Bytes}
  {members others arranged : List (List Piece × Source)}

/-- Two registrations from whose bodies the same is read get the same answer. -/
theorem exchange_registration_congr (ha : a.request.Posts .registration)
    (hb : b.request.Posts .registration) (hconditions : b.conditions = a.conditions)
    (hread : (b.request.readBody.bind fun bytes => (RegistrationRequest.read bytes).toOption)
      = a.request.readBody.bind fun bytes => (RegistrationRequest.read bytes).toOption) :
    (server.exchange store b).response = (server.exchange store a).response ∧
      (server.exchange store b).after = (server.exchange store a).after := by
  have hanswer : server.answer b.conditions store b.request .registration
      = server.answer a.conditions store a.request .registration := by
    rw [answer, answer, hconditions]
    exact answerRegistration_congr hread
  have hfinish : finish b.request = finish a.request := by
    funext response
    simp only [finish, ha.1, hb.1]
  have hhandle : server.handle b.conditions store b.request
      = server.handle a.conditions store a.request := by
    rw [server.handle_served _ _ hb.2 (hb.serves rfl), server.handle_served _ _ ha.2 (ha.serves rfl),
      hanswer, hfinish]
  exact ⟨congrArg Prod.fst hhandle, congrArg Prod.snd hhandle⟩

/-- The same members get the same answer in any order, with any others between them. -/
theorem exchange_eq_of_perm (ha : a.PostsObject bytes members) (hb : b.PostsObject bytes' arranged)
    (hlength : bytes.length ≤ Http.Request.bodyLimit)
    (hlength' : bytes'.length ≤ Http.Request.bodyLimit) (hconditions : b.conditions = a.conditions)
    (hothers : ∀ member ∈ others, IsForeign member) (harranged : arranged.Perm (others ++ members)) :
    (server.exchange store b).response = (server.exchange store a).response ∧
      (server.exchange store b).after = (server.exchange store a).after := by
  refine server.exchange_registration_congr store ha.posts hb.posts hconditions ?_
  have hbytes : a.request.readBody = some bytes := by
    rw [Http.Request.readBody, ha.body, Option.filter_some, decide_eq_true hlength, if_pos rfl]
  have hbytes' : b.request.readBody = some bytes' := by
    rw [Http.Request.readBody, hb.body, Option.filter_some, decide_eq_true hlength', if_pos rfl]
  rw [hbytes, hbytes', Option.bind_some, Option.bind_some]
  exact RegistrationRequest.toOption_read_of_perm hothers harranged ha.spells hb.spells

/-- An object in which one of the two members stands twice is refused. -/
theorem tells_of_twice {name : String} (ha : a.PostsObject bytes members)
    (hname : name = "redirect_uris" ∨ name = "token_endpoint_auth_method")
    (htwice : 2 ≤ (valuesNamed name members).length) :
    (server.exchange store a).Tells 400 "invalid_request" none ∧
      (server.exchange store a).after = store := by
  have hnone : a.registration? = none := (Arrival.registration?_eq ha.body).trans
    (RegistrationRequest.toOption_read_of_twice hname htwice ha.spells)
  exact server.tells_of_answerRegistration store ha.posts
    (answerRegistration_of_unread (Arrival.map_read_readBody_ne (.inr (.inr hnone))))

/-- **A registration goes by its two members.**  Other members, the order and the blanks make no
difference to the answer or to the store; and where one of the two members stands twice, nothing is
registered. -/
theorem registration_goes_by_members :
    (∀ (a b : Arrival) (bytes bytes' : Bytes) (members others arranged : List (List Piece × Source)),
      a.PostsObject bytes members → b.PostsObject bytes' arranged → bytes.length ≤ 2097152 →
      bytes'.length ≤ 2097152 → b.conditions = a.conditions →
      (∀ member ∈ others, IsForeign member) → arranged.Perm (others ++ members) →
      (server.exchange store b).response = (server.exchange store a).response ∧
        (server.exchange store b).after = (server.exchange store a).after) ∧
    ∀ (a : Arrival) (bytes : Bytes) (members : List (List Piece × Source)) (name : String),
      a.PostsObject bytes members →
      (name = "redirect_uris" ∨ name = "token_endpoint_auth_method") →
      2 ≤ (valuesNamed name members).length →
      (server.exchange store a).Tells 400 "invalid_request" none ∧
        (server.exchange store a).after = store := by
  constructor
  · intro a b bytes bytes' members others arranged ha hb hlength hlength'
    exact server.exchange_eq_of_perm store ha hb hlength hlength'
  · intro a bytes members name ha
    exact server.tells_of_twice store ha

end Server

namespace Sample

/-- An object as it stands in a body, behind a blank. -/
def objectBytes (members : List (List Piece × Source)) : Bytes :=
  0x20 :: (Source.object members).tokens.flatMap Token.bytes

/-- A client posts an object. -/
def postObject (members : List (List Piece × Source)) : Arrival where
  conditions := conditions
  request := ⟨"POST", ⟨"/register", none⟩, [], some (objectBytes members)⟩

/-- A member with one redirect URI. -/
def urisMember : List Piece × Source := (piecesOf "redirect_uris", (Json.texts ["http://a"]).source)

/-- The same name with its first letter escaped. -/
def escapedMember : List Piece × Source :=
  (.unit 0x30 0x30 0x37 0x32 0x72 rfl :: piecesOf "edirect_uris", .word .null)

/-- A member that nobody asked for.  Its value is a list of an empty list, of half a surrogate pair,
and of a text that looks like the end of the list. -/
def strayMember : List Piece × Source :=
  (piecesOf "stray",
    .list [.list [], .text [.unit 0x64 0x38 0x30 0x30 0xD800 rfl], .text (piecesOf "\"]\x7d")])

theorem postsObject_postObject (members : List (List Piece × Source)) :
    (postObject members).PostsObject (objectBytes members) members where
  posts := ⟨rfl, rfl⟩
  body := rfl
  spells := by
    have hgap : Json.IsGap true [0x20] := fun b hb => by
      rw [List.mem_singleton.mp hb]
      exact ⟨rfl, rfl⟩
    exact .cons hgap (Json.spells_flatMap_bytes _)

end Sample

/-- A client is registered with the member in front that nobody asked for as without it, and not at
all when the member that was asked for comes again under an escaped name. -/
theorem Server.registration_goes_by_members_of_sample :
    let told := Sample.server.exchange (.initial ⟨0, 0⟩) (Sample.postObject [Sample.urisMember])
    let strayed := Sample.server.exchange (.initial ⟨0, 0⟩)
      (Sample.postObject [Sample.strayMember, Sample.urisMember])
    let doubled := Sample.server.exchange (.initial ⟨0, 0⟩)
      (Sample.postObject [Sample.urisMember, Sample.escapedMember])
    (strayed.response = told.response ∧ strayed.after = told.after) ∧
      doubled.Tells 400 "invalid_request" none ∧ doubled.after = .initial ⟨0, 0⟩ := by
  obtain ⟨hsame, htwice⟩ := registration_goes_by_members Sample.server (.initial ⟨0, 0⟩)
  constructor
  · refine hsame _ _ _ _ [Sample.urisMember] [Sample.strayMember] _
      (Sample.postsObject_postObject _) (Sample.postsObject_postObject _) (by decide +kernel)
      (by decide +kernel) rfl ?_ (.refl _)
    intro member hmember
    obtain rfl := List.mem_singleton.mp hmember
    exact ⟨"stray", Json.contentOf_piecesOf _, by decide, by decide⟩
  · exact htwice _ _ _ "redirect_uris" (Sample.postsObject_postObject _) (.inl rfl)
      (by decide +kernel)

end CodeGrant
