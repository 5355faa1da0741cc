import CodeGrant.Proofs.Config
import CodeGrant.Proofs.Json.Value
import CodeGrant.Proofs.Registration.Document
import CodeGrant.Proofs.Server.Decision
import CodeGrant.Proofs.Server.RedirectUris

/-! # How a registration is decided

The registration endpoint goes by a table (`registrationRules`): the body must be read and must be a
document of registration, whatever type it is declared to have; there must be redirect URIs; and each
of them must be one of the web.  Who passes is registered and told so (`Exchange.Enrols`).

What is told is read back from the bytes of the answer.  It agrees with the client that the store has
from then on, and that one with what was asked for: the same redirect URIs in the same order, and the
method, where one was asked for.  The secret is told exactly where the client has one. -/

namespace CodeGrant

open Http (Request Response)
open Json (Source Spells)

/-- What a client asks for in the body, if that can be read. -/
def Arrival.registration? (a : Arrival) : Option RegistrationRequest :=
  a.request.body.bind fun bytes => (RegistrationRequest.read bytes).toOption

/-- Whether a URI has one of the two schemes of the web. -/
def IsOfTheWeb (uri : String) : Prop :=
  "http://".toList <+: uri.toList ∨ "https://".toList <+: uri.toList

theorem isHttpUri_iff {uri : String} : isHttpUri uri = true ↔ IsOfTheWeb uri := by
  rw [isHttpUri, Bool.or_eq_true, List.isPrefixOf_iff_prefix, List.isPrefixOf_iff_prefix, IsOfTheWeb]

/-- The rules of the registration endpoint, in order. -/
def registrationRules (store : Store) (a : Arrival) : List Rule :=
  [⟨a.request.body = none ∨ (∃ bytes, a.request.body = some bytes ∧ 2097152 < bytes.length) ∨
      a.registration? = none, 400, "invalid_request", none, store⟩,
    ⟨∃ request, a.registration? = some request ∧
      (request.redirectUris = none ∨ request.redirectUris = some []),
      400, "invalid_redirect_uris", some "redirect_uris must be provided", store⟩,
    ⟨∃ request uris, a.registration? = some request ∧ request.redirectUris = some uris ∧
      ∃ uri ∈ uris, ¬ IsOfTheWeb uri,
      400, "invalid_redirect_uri", some "redirect_uris must be absolute http(s) URLs", store⟩]

namespace Exchange

/-- A client is registered as it asked to be, and is told what the store knows of it. -/
structure Enrols (server : Server) (x : Exchange) (request : RegistrationRequest) (client : Client)
    (members : List (String × Json)) : Prop where
  status : x.response.status = 201
  after : x.after = x.before.insertClient client
  known : x.after.client? client.id = some client
  asked : x.registration? = some request
  /-- Where the body is an object, its members ask for that, as they are written. -/
  submitted : ∀ bytes submitted, x.request.body = some bytes →
    Spells true (Source.object submitted).tokens bytes → request.AskedBy submitted
  uris : request.redirectUris = some client.redirectUris
  method : client.authMethod =
    if request.authMethod.getD "" = "" then "none" else request.authMethod.getD ""
  body : Json.read? (Utf8.encode x.response.body) = some (.object members)
  nodup : (members.map Prod.fst).Nodup
  toldId : members.lookup "client_id" = some (.text client.id)
  toldUris : members.lookup "redirect_uris" = some (.texts client.redirectUris)
  toldMethod : members.lookup "token_endpoint_auth_method" = some (.text client.authMethod)
  toldTime : members.lookup "client_id_issued_at" = some (.int client.issuedAt)
  toldSecret : members.lookup "client_secret" =
    if client.authMethod = "none" then none else some (.text client.secret)
  toldUri : members.lookup "registration_client_uri" =
    some (.text (server.config.issuer ++ "/register/" ++ client.id))
  location : x.response.HasOnce "location" (server.config.issuer ++ "/register/" ++ client.id)

end Exchange

/-! ## What is read -/

namespace Arrival

variable {a : Arrival} {bytes : Bytes}

theorem registration?_eq (hbody : a.request.body = some bytes) :
    a.registration? = (RegistrationRequest.read bytes).toOption := by
  rw [registration?, hbody, Option.bind_some]

/-- What is asked for has been read from the body. -/
theorem read_of_registration? {request : RegistrationRequest}
    (hbody : a.request.body = some bytes) (h : a.registration? = some request) :
    RegistrationRequest.read bytes = .ok request := by
  rw [registration?_eq hbody] at h
  cases hread : RegistrationRequest.read bytes with
  | error fault =>
    rw [hread] at h
    cases h
  | ok other =>
    rw [hread] at h
    rw [Option.some.inj h]

/-- It has been read from a body that is not too long. -/
theorem map_read_readBody {request : RegistrationRequest}
    (hbody : a.request.readBody = some bytes) (h : a.registration? = some request) :
    a.request.readBody.map RegistrationRequest.read = some (.ok request) := by
  rw [hbody, Option.map_some, read_of_registration? (Request.body_of_readBody hbody) h]

/-- Nothing is read from a body that fails or is too long, or that is no document. -/
theorem map_read_readBody_ne (h : a.request.body = none ∨
      (∃ bytes, a.request.body = some bytes ∧ 2097152 < bytes.length) ∨ a.registration? = none)
    (request : RegistrationRequest) :
    a.request.readBody.map RegistrationRequest.read ≠ some (.ok request) := by
  intro hrequest
  obtain ⟨bytes, hbody, hread⟩ := Option.map_eq_some_iff.mp hrequest
  have hsubmitted := Request.body_of_readBody hbody
  rcases h with hnone | hlong | hunasked
  · cases hnone.symm.trans hsubmitted
  · cases (Request.readBody_eq_none_iff.mpr (.inr hlong)).symm.trans hbody
  · rw [registration?_eq hsubmitted, hread] at hunasked
    cases hunasked

/-- Any other body asks for something. -/
theorem exists_registration? (h : ¬ (a.request.body = none ∨
    (∃ bytes, a.request.body = some bytes ∧ 2097152 < bytes.length) ∨ a.registration? = none)) :
    ∃ bytes request, a.request.readBody = some bytes ∧ a.registration? = some request := by
  obtain ⟨hbody, hlong, hasked⟩ : a.request.body ≠ none ∧ _ ∧ a.registration? ≠ none := by
    simpa only [not_or] using h
  obtain ⟨bytes, hbody⟩ := Option.ne_none_iff_exists'.mp fun hnone =>
    (Request.readBody_eq_none_iff.mp hnone).elim hbody hlong
  obtain ⟨request, hasked⟩ := Option.ne_none_iff_exists'.mp hasked
  exact ⟨bytes, request, hbody, hasked⟩

end Arrival

/-! ## What is told -/

/-- The method that is chosen is the one that was asked for, if one was. -/
theorem chooseAuthMethod_eq (method : Option String) : chooseAuthMethod method =
    if method.getD "" = "" then "none" else method.getD "" := by
  cases method <;> rfl

namespace Server

variable (server : Server) (store : Store) {a : Arrival} {bytes : Bytes}
  {request : RegistrationRequest}

/-- A registration that is refused is told why, and changes nothing. -/
theorem tells_of_answerRegistration {error : ProtocolError} (h : a.request.Posts .registration)
    (hanswer : answerRegistration server.config a.conditions store a.request.readBody
      = (.error error, store)) :
    (server.exchange store a).Tells error.status error.code error.description? ∧
      (server.exchange store a).after = store := by
  have hhandle := server.handle_served a.conditions store h.2 (h.serves rfl)
  rw [answer, hanswer] at hhandle
  exact Exchange.tells_of_handle hhandle

/-- **A client that asks for redirect URIs of the web is registered as it asked to be.** -/
theorem enrols_exchange {uris : List String} (h : a.request.Posts .registration)
    (hissuer : Response.isHeaderSafe server.config.issuer = true)
    (hbody : a.request.readBody = some bytes) (hasked : a.registration? = some request)
    (huris : request.redirectUris = some uris) (hnil : uris ≠ [])
    (hweb : ∀ uri ∈ uris, IsOfTheWeb uri) :
    let client := Client.register a.conditions uris request.authMethod
    (server.exchange store a).Enrols server request client (client.members server.config) := by
  intro client
  have hsubmitted := Request.body_of_readBody hbody
  have hread := Arrival.read_of_registration? hsubmitted hasked
  have hhttp : uris.all isHttpUri = true :=
    List.all_eq_true.mpr fun uri huri => isHttpUri_iff.mpr (hweb uri huri)
  have hhandle := server.handle_served a.conditions store h.2 (h.serves rfl)
  have hanswer : answerRegistration server.config a.conditions store a.request.readBody
      = (.ok (registrationResponse server.config client), store.insertClient client) := by
    have hrequest := Arrival.map_read_readBody hbody hasked
    have hdefault : request.redirectUris.getD [] = uris := by rw [huris, Option.getD_some]
    have hclient : client = .register a.conditions (request.redirectUris.getD [])
        request.authMethod := by rw [hdefault]
    rw [hclient]
    exact answerRegistration_of_fit hrequest (hdefault ▸ hnil) (hdefault ▸ hhttp) hissuer
  rw [answer, hanswer] at hhandle
  have hx := exchange_of_handle hhandle
  have hstored : (store.insertClient client).client? client.id = some client := by
    rw [Store.client?_insertClient, if_pos rfl]
  have hsound := Client.isSound_register a.conditions request.authMethod hnil hhttp
  obtain ⟨hid, htold, hmethod, htime, huri, hkept⟩ := client.lookup_members server.config
  rw [hx]
  refine ⟨?_, rfl, hstored, hasked, ?_, huris, chooseAuthMethod_eq _, ?_, client.nodup_members _, hid,
    htold, hmethod, htime, ?_, huri, ?_⟩
  · exact status_finish _ _
  · intro other submitted hother hspells
    obtain rfl := Option.some.inj (hsubmitted.symm.trans hother)
    exact RegistrationRequest.askedBy_of_read hspells hread
  · rw [← Client.document_eq]
    exact (saidBy_finish (by rw [h.1]; decide) rfl).read
  · rw [hkept]
    exact if_congr hsound.secret_eq_empty_iff rfl rfl
  · rw [← Config.clientUri_eq]
    exact (Response.hasOnce_setHeader _ _ _).finish _ (by decide)

/-- **The registration endpoint goes by its table.** -/
theorem goesBy_registrationRules (h : a.request.Posts .registration)
    (hissuer : Response.isHeaderSafe server.config.issuer = true) :
    (server.exchange store a).GoesBy (registrationRules store a) (∃ request client members,
      (server.exchange store a).Enrols server request client members) := by
  refine .cons (fun hunread => server.tells_of_answerRegistration store h
    (answerRegistration_of_unread (Arrival.map_read_readBody_ne hunread))) fun hread => ?_
  obtain ⟨bytes, request, hbody, hasked⟩ := Arrival.exists_registration? hread
  have hrequest := Arrival.map_read_readBody hbody hasked
  refine .cons (fun hmissing => ?_) fun hgiven => ?_
  · obtain ⟨other, hother, hmissing⟩ := hmissing
    obtain rfl := Option.some.inj (hasked.symm.trans hother)
    refine server.tells_of_answerRegistration store h (answerRegistration_of_missing hrequest ?_)
    rcases hmissing with hnone | hempty
    · rw [hnone, Option.getD_none]
    · rw [hempty, Option.getD_some]
  obtain ⟨uris, huris⟩ := Option.ne_none_iff_exists'.mp fun hnone =>
    hgiven ⟨request, hasked, .inl hnone⟩
  have hnil : uris ≠ [] := fun hnil => hgiven ⟨request, hasked, .inr (huris.trans (hnil ▸ rfl))⟩
  have hdefault : request.redirectUris.getD [] = uris := by rw [huris, Option.getD_some]
  refine .cons (fun hother => ?_) fun hweb => .nil ?_
  · obtain ⟨other, uris', hother, huris', uri, huri, hforeign⟩ := hother
    obtain rfl := Option.some.inj (hasked.symm.trans hother)
    obtain rfl := Option.some.inj (huris.symm.trans huris')
    have hhttp : uris.all isHttpUri = false := by
      rw [Bool.eq_false_iff]
      exact fun hall => hforeign (isHttpUri_iff.mp (List.all_eq_true.mp hall uri huri))
    exact server.tells_of_answerRegistration store h
      (answerRegistration_of_not_http hrequest (hdefault ▸ hnil) (hdefault ▸ hhttp))
  · refine ⟨request, _, _, server.enrols_exchange store h hissuer hbody hasked huris hnil ?_⟩
    intro uri huri
    by_contra hforeign
    exact hweb ⟨request, uris, hasked, huris, uri, huri, hforeign⟩

/-- **A registration is decided by the first rule that applies, and who passes all rules is
registered and told what the store knows from then on.** -/
theorem registration_decided (h : a.request.Posts .registration)
    (hissuer : Response.isHeaderSafe server.config.issuer = true) :
    let x := server.exchange store a
    x.GoesBy (registrationRules store a)
        (∃ request client members, x.Enrols server request client members) ∧
      (x.response.status = 201 ↔ ∀ rule ∈ registrationRules store a, ¬ rule.applies) := by
  intro x
  have hgoes := server.goesBy_registrationRules store h hissuer
  exact ⟨hgoes, hgoes.status_eq_iff (by decide) fun ⟨_, _, _, henrols⟩ => henrols.status⟩

/-- A client registers at the sample server, and one whose redirect URI is not of the web is told
so. -/
theorem registration_decided_of_sample :
    (∃ request client members, (Sample.server.exchange (.initial ⟨0, 0⟩) Sample.enrol).Enrols
        Sample.server request client members) ∧
      (Sample.server.exchange (.initial ⟨0, 0⟩) (Sample.enrolAt "ftp://a")).Tells 400
        "invalid_redirect_uri" (some "redirect_uris must be absolute http(s) URLs") := by
  have hissuer : Response.isHeaderSafe Sample.server.config.issuer = true := by decide
  constructor
  · obtain ⟨hgoes, hcreated⟩ :=
      registration_decided Sample.server (.initial ⟨0, 0⟩) (a := Sample.enrol) ⟨rfl, rfl⟩ hissuer
    exact hgoes.granted (hcreated.mp (by decide +kernel))
  · obtain ⟨hgoes, -⟩ := registration_decided Sample.server (.initial ⟨0, 0⟩)
      (a := Sample.enrolAt "ftp://a") ⟨rfl, rfl⟩ hissuer
    have hread : RegistrationRequest.read
        (Utf8.encode (Json.object [("redirect_uris", .texts ["ftp://a"])]).render)
          = .ok ⟨some ["ftp://a"], none⟩ := by
      decide +kernel
    have hasked := Arrival.registration?_eq (a := Sample.enrolAt "ftp://a") rfl
    rw [hread] at hasked
    refine (hgoes.refused [_, _] _ [] rfl ?_ ⟨_, _, hasked, rfl, _, List.mem_cons_self, ?_⟩).1
    · intro rule hrule happlies
      simp only [List.mem_cons, List.not_mem_nil, or_false] at hrule
      rcases hrule with rfl | rfl
      · obtain hnone | ⟨bytes, hbytes, hlong⟩ | hnone := happlies
        · cases hnone
        · obtain rfl := Option.some.inj hbytes
          exact absurd hlong (by decide +kernel)
        · cases hasked.symm.trans hnone
      · obtain ⟨request, hrequest, hmissing⟩ := happlies
        obtain rfl := Option.some.inj (hasked.symm.trans hrequest)
        rcases hmissing with hnone | hempty
        · cases hnone
        · cases hempty
    · rw [← isHttpUri_iff]
      decide

end Server

end CodeGrant
