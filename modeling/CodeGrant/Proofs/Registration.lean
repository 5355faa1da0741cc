import CodeGrant.Proofs.Authorization
import CodeGrant.Proofs.Json.Text
import CodeGrant.Registration

/-! # How a client is registered

A registration is refused, or the client is in the store.  `answerRegistration` has one
equation for each of its answers; whether the last one is a success depends on nothing
but the issuer of the server, since an identifier can always stand in a header
(`Config.isHeaderSafe_clientUri`). -/

namespace CodeGrant

open Http (Response)

/-- **The URI of a client can stand in a header if the issuer can.** -/
theorem Config.isHeaderSafe_clientUri (config : Config) (draws : Draws) :
    Response.isHeaderSafe (config.clientUri draws.clientIdText)
      = Response.isHeaderSafe config.issuer := by
  have hpath : Response.isHeaderSafe Endpoint.registration.path = true := by decide
  have hslash : Response.isHeaderSafe "/" = true := by decide
  simp only [clientUri, endpoint, url, Response.isHeaderSafe_append, hpath, hslash,
    draws.isDigits_clientIdText.isHeaderSafe, Bool.and_true]

theorem Json.texts_injective {a b : List String} (h : Json.texts a = Json.texts b) : a = b := by
  have hitems : a.map Json.text = b.map Json.text := Json.list.inj h
  exact List.map_inj_right (fun _ _ => Json.text.inj) |>.mp hitems

/-- **What is told of a client tells everything about it.** -/
theorem Client.eq_of_render_eq {config : Config} {a b : Client}
    (h : (a.document config).render = (b.document config).render) : a = b := by
  have hdocument := Json.render_injective h
  obtain ⟨id, secret, uris, method, issuedAt⟩ := a
  obtain ⟨id', secret', uris', method', issuedAt'⟩ := b
  simp only [document] at hdocument
  -- A document with a secret is longer than one without.
  by_cases hsecret : secret = "" <;> by_cases hsecret' : secret' = "" <;>
    simp only [hsecret, hsecret', if_true, if_false, List.cons_append, List.nil_append,
      Json.object.injEq, List.cons.injEq, Prod.mk.injEq, Json.text.injEq, Json.int.injEq] at hdocument
  · obtain ⟨⟨-, rfl⟩, ⟨-, rfl⟩, ⟨-, huris⟩, -, ⟨-, rfl⟩, -⟩ := hdocument
    rw [Json.texts_injective huris, hsecret, hsecret']
  · exact absurd hdocument.2.2.1.1 (by decide)
  · exact absurd hdocument.2.2.1.1 (by decide)
  · obtain ⟨⟨-, rfl⟩, ⟨-, rfl⟩, ⟨-, rfl⟩, ⟨-, huris⟩, -, ⟨-, rfl⟩, -⟩ := hdocument
    rw [Json.texts_injective huris]

/-! ## The answers -/

variable {config : Config} {conditions : Conditions} {store : Store} {body : Option Bytes}
  {request : RegistrationRequest}

/-- The response to the one who registered a client. -/
def registrationResponse (config : Config) (client : Client) : Response :=
  (Response.json 201 (client.document config)).setHeader "location" (config.clientUri client.id)

/-- A request is read from a body if reading succeeds. -/
theorem map_read_eq_some_iff : body.map RegistrationRequest.read = some (.ok request) ↔
    (body.bind fun bytes => (RegistrationRequest.read bytes).toOption) = some request := by
  cases body with
  | none => simp
  | some bytes => cases hread : RegistrationRequest.read bytes <;> simp [hread, Except.toOption]

theorem answerRegistration_of_unread
    (h : ∀ request, body.map RegistrationRequest.read ≠ some (.ok request)) :
    answerRegistration config conditions store body = (.error (.invalidRequest none), store) := by
  unfold answerRegistration
  split
  · next request hread => exact absurd hread (h request)
  · rfl

/-- The answer depends on nothing of the body but what is read from it, if anything is. -/
theorem answerRegistration_congr {other : Option Bytes}
    (h : (body.bind fun bytes => (RegistrationRequest.read bytes).toOption)
      = other.bind fun bytes => (RegistrationRequest.read bytes).toOption) :
    answerRegistration config conditions store body
      = answerRegistration config conditions store other := by
  by_cases hread : ∃ request, body.map RegistrationRequest.read = some (.ok request)
  · obtain ⟨request, hread⟩ := hread
    have hother : other.map RegistrationRequest.read = some (.ok request) := by
      rw [map_read_eq_some_iff, ← h, ← map_read_eq_some_iff, hread]
    rw [answerRegistration, answerRegistration, hread, hother]
  · have hother (request : RegistrationRequest) :
        other.map RegistrationRequest.read ≠ some (.ok request) := by
      rw [Ne, map_read_eq_some_iff, ← h, ← map_read_eq_some_iff]
      exact fun hrequest => hread ⟨request, hrequest⟩
    rw [answerRegistration_of_unread (not_exists.mp hread), answerRegistration_of_unread hother]

section

variable (hread : body.map RegistrationRequest.read = some (.ok request))

include hread

theorem answerRegistration_of_missing (huris : request.redirectUris.getD [] = []) :
    answerRegistration config conditions store body = (.error .redirectUrisMissing, store) := by
  simp only [answerRegistration, hread, Store.register, if_pos huris]

theorem answerRegistration_of_not_http (huris : request.redirectUris.getD [] ≠ [])
    (hhttp : (request.redirectUris.getD []).all isHttpUri = false) :
    answerRegistration config conditions store body = (.error .redirectUriNotHttp, store) := by
  simp only [answerRegistration, hread, Store.register, if_neg huris, hhttp, Bool.false_eq_true,
    if_false]

/-- The client is in the store already when its own URI turns out unfit for a header. -/
theorem answerRegistration_of_unfit (huris : request.redirectUris.getD [] ≠ [])
    (hhttp : (request.redirectUris.getD []).all isHttpUri = true)
    (hissuer : Response.isHeaderSafe config.issuer = false) :
    answerRegistration config conditions store body = (.error .registrationUriInvalid,
      store.insertClient (.register conditions (request.redirectUris.getD []) request.authMethod)) := by
  have huri : Response.isHeaderSafe (config.clientUri
      (Client.register conditions (request.redirectUris.getD []) request.authMethod).id) = false :=
    (config.isHeaderSafe_clientUri conditions.draws).trans hissuer
  simp only [answerRegistration, hread, Store.register, if_neg huris, hhttp, if_true, huri,
    Bool.false_eq_true, if_false]

/-- **A client with redirect URIs of the web is registered.** -/
theorem answerRegistration_of_fit (huris : request.redirectUris.getD [] ≠ [])
    (hhttp : (request.redirectUris.getD []).all isHttpUri = true)
    (hissuer : Response.isHeaderSafe config.issuer = true) :
    answerRegistration config conditions store body =
      (.ok (registrationResponse config
          (.register conditions (request.redirectUris.getD []) request.authMethod)),
        store.insertClient
          (.register conditions (request.redirectUris.getD []) request.authMethod)) := by
  have huri : Response.isHeaderSafe (config.clientUri
      (Client.register conditions (request.redirectUris.getD []) request.authMethod).id) = true :=
    (config.isHeaderSafe_clientUri conditions.draws).trans hissuer
  simp only [answerRegistration, hread, Store.register, if_neg huris, hhttp, if_true, huri,
    registrationResponse]

end

/-- **A registration is refused, or the client is in the store**, whether the answer says so or
not.  Which of the two it is does not depend on the store. -/
theorem answerRegistration_cases (config : Config) (conditions : Conditions)
    (body : Option Bytes) :
    (∃ error : ProtocolError, error.status = 400 ∧
      ∀ store, answerRegistration config conditions store body = (.error error, store)) ∨
    ∃ uris method, uris ≠ [] ∧ uris.all isHttpUri = true ∧
      ∀ store, answerRegistration config conditions store body =
        (if Response.isHeaderSafe config.issuer = true then
            .ok (registrationResponse config (.register conditions uris method))
          else .error .registrationUriInvalid,
          store.insertClient (.register conditions uris method)) := by
  by_cases hread : ∃ request, body.map RegistrationRequest.read = some (.ok request)
  · obtain ⟨request, hread⟩ := hread
    by_cases huris : request.redirectUris.getD [] = []
    · exact .inl ⟨_, rfl, fun _ => answerRegistration_of_missing hread huris⟩
    · cases hhttp : (request.redirectUris.getD []).all isHttpUri with
      | false => exact .inl ⟨_, rfl, fun _ => answerRegistration_of_not_http hread huris hhttp⟩
      | true =>
        refine .inr ⟨_, request.authMethod, huris, hhttp, fun store => ?_⟩
        cases hissuer : Response.isHeaderSafe config.issuer with
        | false => exact answerRegistration_of_unfit hread huris hhttp hissuer
        | true => exact answerRegistration_of_fit hread huris hhttp hissuer
  · exact .inl ⟨_, rfl, fun _ => answerRegistration_of_unread (not_exists.mp hread)⟩

end CodeGrant
