import CodeGrant.Proofs.Pkce
import CodeGrant.Proofs.Server.TokenDecision

/-! # A challenge without the shape is never met

The authorization endpoint stores any challenge that is not empty.  Whoever redeems the code must
show a verifier whose challenge it is, and the challenge of a verifier has a shape
(`Pkce.IsShaped`).  So a code that was stored with a challenge of another shape (padded, of another
alphabet, too long or too short) is refused to everybody, for as long as it is in the store and ever
after, unless the same code is drawn again for somebody else (`Run.status_of_not_isShaped`). -/

namespace CodeGrant

/-- **A bearer passes only if the challenge of the grant has the shape.** -/
theorem TokenRequest.isShaped_of_check {request : TokenRequest} {grant : Grant}
    (h : request.check grant = .ok ()) : Pkce.IsShaped grant.challenge := by
  obtain ⟨-, -, -, -, hchallenge⟩ := check_eq_ok_iff.mp h
  rw [← hchallenge]
  exact Pkce.isShaped_challenge request.verifier

/-! ## One request -/

/-- A bearer of a code is refused if the code is unknown or its challenge lacks the shape. -/
theorem Server.status_of_not_isShaped (server : Server) {store : Store} {a : Arrival}
    (h : a.request.Posts .token)
    (hstore : ∀ grant, store.grant? a.shown.code = some grant →
      ¬ Pkce.IsShaped grant.challenge) :
    (server.exchange store a).response.status = 400 := by
  have happlies : ∃ rule ∈ (tokenRules server store a).take 9, rule.applies := by
    cases hgrant : store.grant? a.shown.code with
    | none => exact ⟨_, List.mem_of_getElem? (show _[2]? = some _ from rfl), hgrant⟩
    | some grant =>
      refine ⟨_, List.mem_of_getElem? (show _[8]? = some _ from rfl), grant, hgrant, ?_⟩
      intro hchallenge
      refine hstore grant hgrant ?_
      rw [hchallenge]
      exact Pkce.isShaped_challenge a.shown.verifier
  -- The only rule that blames the server comes behind the rule of the verifier.
  have hrefuses : ∀ rule ∈ (tokenRules server store a).take 9, rule.status = 400 := by
    simp [tokenRules]
  obtain ⟨rule, hrule, htells, -⟩ := (server.goesBy_tokenRules store h).follows_of_take happlies
  rw [htells.goesBy, hrefuses rule hrule]

/-- **Only a code that is issued comes to be known.** -/
theorem Exchange.Outcome.grant?_of_grant?_after {server : Server} {x : Exchange}
    (h : x.Outcome server) {code : String} {grant : Grant}
    (hissued : ∀ other, x.issued? ≠ some (code, other))
    (hafter : x.after.grant? code = some grant) : x.before.grant? code = some grant := by
  have herased (hgone : x.after = x.before.eraseCode x.redemption.code) :
      x.before.grant? code = some grant := by
    rw [hgone, Store.grant?_eraseCode] at hafter
    split at hafter
    · cases hafter
    · exact hafter
  cases h with
  | quiet h => rwa [h.after] at hafter
  | registers h => rwa [h.after, Store.grant?_insertClient] at hafter
  | issues h =>
    rw [h.after, Store.grant?_putCode, if_neg] at hafter
    · exact hafter
    · intro hcode
      exact hissued _ (Exchange.issued?_eq_some_iff.mpr ⟨h.handsOut, hcode, rfl⟩)
  | expires h => exact herased h.after
  | redeems h => exact herased h.after

/-! ## Runs -/

/-- **A code whose challenge lacks the shape is refused in every run**, unless it is issued anew. -/
theorem Run.status_of_not_isShaped {server : Server} {store : Store} {arrivals : List Arrival}
    {code : String}
    (hstore : ∀ grant, store.grant? code = some grant → ¬ Pkce.IsShaped grant.challenge)
    (hissued : code ∉ issuedCodes (server.run store arrivals)) :
    ∀ x ∈ server.run store arrivals, x.request.Posts .token → x.shown.code = code →
      x.response.status = 400 := by
  induction arrivals generalizing store with
  | nil => simp
  | cons a arrivals ih =>
    rw [Server.run_cons] at hissued ⊢
    obtain ⟨hfirst, hrest⟩ := notMem_issuedCodes_cons_iff.mp hissued
    have hafter : ∀ grant, (server.exchange store a).after.grant? code = some grant →
        ¬ Pkce.IsShaped grant.challenge := fun grant hgrant =>
      hstore grant ((server.outcome_exchange store a).grant?_of_grant?_after hfirst hgrant)
    refine List.forall_mem_cons.mpr ⟨fun hposts hcode => ?_, ih hafter hrest⟩
    subst hcode
    exact server.status_of_not_isShaped hposts hstore

/-- **A challenge is good exactly if it is the canonical text of the digest.**  It has forty-three
characters of the alphabet, the unused bits of the last one are zero, and it decodes to the digest
of the verifier; so the challenge of one verifier is good for another if and only if they have the
same digest.  No bearer passes where the challenge of the grant has any other shape, and the code of
such a grant is refused in every run, unless the code itself is issued anew. -/
theorem Pkce.only_canonical_challenge :
    (∀ verifier text : String, verify verifier text = true ↔
      IsShaped text ∧ Base64Url.DecodesTo text (Sha256.digest (Utf8.encode verifier))) ∧
    (∀ verifier other : String, verify verifier (challenge other) = true ↔
      Sha256.digest (Utf8.encode verifier) = Sha256.digest (Utf8.encode other)) ∧
    (∀ (request : TokenRequest) (grant : Grant), ¬ IsShaped grant.challenge →
      request.check grant ≠ .ok ()) ∧
    ∀ (server : Server) (store : Store) (arrivals : List Arrival) (code : String) (grant : Grant),
      store.grant? code = some grant → ¬ IsShaped grant.challenge →
      code ∉ Run.issuedCodes (server.run store arrivals) →
      ∀ x ∈ server.run store arrivals, x.request.Posts .token → x.shown.code = code →
        x.response.status = 400 := by
  refine ⟨verify_iff_isShaped, verify_challenge_iff, ?_, ?_⟩
  · intro request grant hshape hcheck
    exact hshape (TokenRequest.isShaped_of_check hcheck)
  · intro server store arrivals code grant hgrant hshape hissued
    refine Run.status_of_not_isShaped (fun other hother => ?_) hissued
    obtain rfl := Option.some.inj (hgrant.symm.trans hother)
    exact hshape

/-- The right verifier does not redeem a code whose challenge has a sign of padding behind it. -/
theorem Pkce.only_canonical_challenge_of_padded :
    let padded : Grant :=
      { Sample.ask.drawnGrant with challenge := challenge "verifier" ++ "=" }
    let store := (Store.initial ⟨0, 0⟩).putCode Sample.ask.drawnCode padded
    store.grant? Sample.ask.drawnCode = some padded ∧ ¬ IsShaped padded.challenge ∧
      (Sample.server.exchange store (Sample.bearer "verifier")).response.status = 400 := by
  intro padded store
  have hgrant : store.grant? Sample.ask.drawnCode = some padded := by
    rw [Store.grant?_putCode, if_pos rfl]
  have hshape : ¬ IsShaped padded.challenge := by
    intro hshaped
    have hlength := hshaped.length
    rw [String.length_append, (isShaped_challenge _).length] at hlength
    exact absurd hlength (by decide)
  have hcode : (Sample.bearer "verifier").shown.code = Sample.ask.drawnCode := by
    rw [Arrival.shown_eq_ofParams rfl]
    simp [TokenRequest.ofParams, Form.get_cons, Sample.form, Arrival.drawnCode, Sample.ask]
  have hposts : (Sample.bearer "verifier").request.Posts .token := ⟨rfl, rfl⟩
  have hissued : Sample.ask.drawnCode ∉
      Run.issuedCodes (Sample.server.run store [Sample.bearer "verifier"]) := by
    refine Run.notMem_issuedCodes_cons_iff.mpr ⟨fun grant hissue => ?_, List.not_mem_nil⟩
    obtain ⟨hissues, -⟩ := Exchange.issued?_eq_some_iff.mp hissue
    exact Exchange.not_handsOut_of_path hposts.2 (by decide) hissues
  obtain ⟨-, -, -, hrefused⟩ := only_canonical_challenge
  exact ⟨hgrant, hshape,
    hrefused _ _ _ _ _ hgrant hshape hissued _ List.mem_cons_self hposts hcode⟩

end CodeGrant
