import CodeGrant.Proofs.Server.Run

/-! # Registration is all or nothing, almost

A registration that succeeds adds the client that the answer tells, and one that is
refused changes nothing (`Server.registration_told_or_refused`).  There is one answer in
between: a client is stored before its own URI is turned into a header, and this fails
under an issuer with a control character.  The client is then in the store, and nobody
is told (`Server.registration_untold_of_control_character`). -/

namespace CodeGrant

open Http (Response)

namespace Server

variable (server : Server) (store : Store) {a : Arrival}

/-- **A registration adds the client that the answer tells, or it is refused and changes nothing**,
unless the server cannot tell the client its URI.  That happens only under an issuer that cannot
stand in a header: the answer is then an error on the side of the server, and the client is
added. -/
theorem registration_told_or_refused (h : a.request.Posts .registration) :
    let x := server.exchange store a
    (x.response.status = 201 → ∃ client : Client, client.id = a.conditions.draws.clientIdText ∧
      (Json.object (client.members server.config)).SaidBy x.response.body ∧
      (client.members server.config).lookup "client_id" = some (.text client.id) ∧
      x.after = x.before.insertClient client) ∧
    (x.response.status ≠ 201 → x.after = x.before ∨
      (Response.isHeaderSafe server.config.issuer = false ∧ x.response.status = 500 ∧
        ∃ client : Client, client.id = a.conditions.draws.clientIdText ∧
          x.after = x.before.insertClient client)) := by
  intro x
  rcases server.exchange_registration_cases store h with ⟨hstatus, hafter⟩ |
    ⟨uris, method, -, -, hafter, ⟨-, hstatus, hbody⟩ | ⟨hissuer, hstatus⟩⟩
  · exact ⟨fun h201 => absurd (hstatus.symm.trans h201) (by decide), fun _ => .inl hafter⟩
  · exact ⟨fun _ => ⟨_, rfl, hbody, (Client.lookup_members _ _).1, hafter⟩,
      fun hne => absurd hstatus hne⟩
  · exact ⟨fun h201 => absurd (hstatus.symm.trans h201) (by decide),
      fun _ => .inr ⟨hissuer, hstatus, _, rfl, hafter⟩⟩

/-- A client registers at the sample server, which tells its identifier. -/
theorem registration_told_or_refused_of_sample : ∃ (client : Client) (members : List (String × Json)),
    client.id = Sample.conditions.draws.clientIdText ∧
      Json.read? (Utf8.encode
          (Sample.server.exchange (.initial ⟨0, 0⟩) Sample.enrol).response.body)
        = some (.object members) ∧
      members.lookup "client_id" = some (.text client.id) ∧
      (Sample.server.exchange (.initial ⟨0, 0⟩) Sample.enrol).after
        = (Store.initial ⟨0, 0⟩).insertClient client := by
  have hposts : Sample.enrol.request.Posts .registration := ⟨rfl, rfl⟩
  obtain ⟨htold, -⟩ := registration_told_or_refused Sample.server (.initial ⟨0, 0⟩) hposts
  obtain ⟨client, hid, hbody, hlookup, hafter⟩ := htold (by decide +kernel)
  exact ⟨client, _, hid, hbody.read, hlookup, hafter⟩

/-- **A client may be added without being told.**  Under an issuer with a line break the same request
is answered by an error, and the client is in the store. -/
theorem registration_untold_of_control_character :
    let x := Server.exchange ⟨.forTesting "a\nb", Sample.server.tokens⟩ (.initial ⟨0, 0⟩) Sample.enrol
    x.response.status = 500 ∧ x.before.client? Sample.conditions.draws.clientIdText = none ∧
      x.after.client? Sample.conditions.draws.clientIdText
        = some (.register Sample.conditions ["http://a"] none) := by
  decide +kernel

end Server

end CodeGrant
