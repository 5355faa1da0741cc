import CodeGrant.Proofs.Server.Run

/-! # No code is lost and none appears

A request changes the codes of a store only as its answer tells
(`Exchange.ChangesAsTold`): a redirect adds a code with the record of what the query asks
for (`Grant.Records`).  So the codes that are outstanding behind a run are those
that were there before it and those that it issued, without those that it used up, if
no code is issued that was issued before (`Run.grant?_storeAfter_iff`). -/

namespace CodeGrant

/-- The store behind an exchange is the store before it, but for what the answer tells. -/
structure Exchange.ChangesAsTold (x : Exchange) : Prop where
  /-- A redirect adds the code that was drawn, with the record of what was asked. -/
  issued : x.HandsOutCode → ∃ grant : Grant, grant.Records x.toArrival ∧
    x.after.grants = x.before.grants.insert x.drawnCode grant
  /-- A code that is told to be gone was there, and no other code goes with it. -/
  usedUp : x.UsesUpCode → x.redemption.code ∈ x.before.grants ∧
    x.after.grants = x.before.grants.erase x.redemption.code
  /-- Any other answer leaves the codes as they are. -/
  otherwise : ¬ x.HandsOutCode → ¬ x.UsesUpCode → x.after.grants = x.before.grants
  /-- Clients change by nothing but registration. -/
  clients : ¬ x.request.Posts .registration → x.after.clients = x.before.clients

theorem Exchange.Outcome.changesAsTold {server : Server} {x : Exchange} (h : x.Outcome server) :
    x.ChangesAsTold where
  issued hissued := by
    refine ⟨x.drawnGrant, x.records_drawnGrant, ?_⟩
    rw [(h.issues_of_handsOut hissued).after, Store.putCode]
  usedUp hused := by
    obtain ⟨⟨grant, hknown⟩, hafter⟩ := h.erase_of_usesUp hused
    refine ⟨?_, by rw [hafter, Store.eraseCode]⟩
    rw [← Std.ExtTreeMap.isSome_getElem?_iff_mem, ← Store.grant?, hknown]
    rfl
  otherwise := h.grants_after
  clients := h.clients_after

/-- What is known of a code behind an exchange, if a code that was issued was not there before. -/
theorem Exchange.Outcome.grant?_after_iff {server : Server} {x : Exchange} (h : x.Outcome server)
    (hfresh : ∀ code grant, x.issued? = some (code, grant) → x.before.grant? code = none)
    (code : String) (grant : Grant) : x.after.grant? code = some grant ↔
      (x.before.grant? code = some grant ∨ x.issued? = some (code, grant)) ∧
        x.usedUp? ≠ some code := by
  by_cases hissued : x.HandsOutCode
  · have hissues := h.issues_of_handsOut hissued
    have hnone := hfresh _ _ (Exchange.issued?_eq_some_iff.mpr ⟨hissued, rfl, rfl⟩)
    -- One endpoint issues codes and another uses them up, so no request does both.
    have hused : x.usedUp? ≠ some code := fun hused =>
      Exchange.not_usesUp_of_path hissues.request.2 (by decide)
        (Exchange.usedUp?_eq_some_iff.mp hused).1
    rw [hissues.after, Store.grant?_putCode, Exchange.issued?_eq_some_iff]
    by_cases hcode : x.drawnCode = code
    · subst hcode
      simp [hnone, hissued, hused]
    · simp [hcode, hused]
  · have hnot : x.issued? ≠ some (code, grant) := fun hissue =>
      hissued (Exchange.issued?_eq_some_iff.mp hissue).1
    by_cases hused : x.UsesUpCode
    · rw [(h.erase_of_usesUp hused).2, Store.grant?_eraseCode, Ne, Exchange.usedUp?_eq_some_iff]
      by_cases hcode : x.redemption.code = code
      · simp [hcode, hused]
      · simp [hcode, hnot]
    · have hnotUsed : x.usedUp? ≠ some code := fun hcode =>
        hused (Exchange.usedUp?_eq_some_iff.mp hcode).1
      rw [Store.grant?, h.grants_after hissued hused, ← Store.grant?]
      simp [hnot, hnotUsed]

/-- **What is outstanding behind a run was there or was issued, and was not used up.** -/
theorem Run.grant?_storeAfter_iff (server : Server) {store : Store} {arrivals : List Arrival}
    (hnodup : (issuedCodes (server.run store arrivals)).Nodup)
    (hfresh : ∀ code ∈ issuedCodes (server.run store arrivals), store.grant? code = none)
    (code : String) (grant : Grant) : (server.storeAfter store arrivals).grant? code = some grant ↔
      (store.grant? code = some grant ∨ (code, grant) ∈ issued (server.run store arrivals)) ∧
        code ∉ usedUp (server.run store arrivals) := by
  induction arrivals generalizing store with
  | nil => simp [issued, usedUp]
  | cons a arrivals ih =>
    rw [Server.run_cons] at hnodup hfresh ⊢
    obtain ⟨hfirst, hrest⟩ := nodup_issuedCodes_cons_iff.mp hnodup
    have hstep := (server.outcome_exchange store a).grant?_after_iff
      (fun other _ hissued => hfresh other (mem_issuedCodes_of_mem_issued
        (mem_issued_cons.mpr (.inl hissued))))
    have hold : ∀ other ∈ issuedCodes (server.run (server.exchange store a).after arrivals),
        store.grant? other = none := by
      intro other hother
      obtain ⟨issue, hissue, rfl⟩ := List.mem_map.mp hother
      exact hfresh _ (mem_issuedCodes_of_mem_issued (mem_issued_cons.mpr (.inr hissue)))
    rw [Server.storeAfter_cons, ih hrest ?_, hstep, mem_issued_cons, mem_usedUp_cons, not_or]
    · constructor
      · rintro ⟨⟨hissued | hissued, hused⟩ | hlater, hkept⟩
        · exact ⟨.inl hissued, hused, hkept⟩
        · exact ⟨.inr (.inl hissued), hused, hkept⟩
        · -- A code that is issued later is not there yet, so the first request does not use it up.
          refine ⟨.inr (.inr hlater), fun hcode => ?_, hkept⟩
          obtain ⟨hused, rfl⟩ := Exchange.usedUp?_eq_some_iff.mp hcode
          obtain ⟨⟨grant, hknown⟩, -⟩ := (server.outcome_exchange store a).erase_of_usesUp hused
          rw [show (server.exchange store a).before = store from rfl,
            hold _ (mem_issuedCodes_of_mem_issued hlater)] at hknown
          cases hknown
      · rintro ⟨hissued | hissued | hlater, hused, hkept⟩
        · exact ⟨.inl ⟨.inl hissued, hused⟩, hkept⟩
        · exact ⟨.inl ⟨.inr hissued, hused⟩, hkept⟩
        · exact ⟨.inr hlater, hkept⟩
    · -- What is issued later is not known behind the first request either.
      intro other hother
      by_contra hknown
      obtain ⟨grant, hgrant⟩ := Option.ne_none_iff_exists'.mp hknown
      rcases ((hstep other grant).mp hgrant).1 with hbefore | hissued
      · rw [show (server.exchange store a).before = store from rfl, hold other hother] at hbefore
        cases hbefore
      · exact hfirst other grant hissued hother

/-- **No code is lost and none appears.**  A request changes the store only as its answer tells; and
behind a run of a fresh server in which no code is issued twice, the codes that are outstanding are
those that were issued, each with the record of what was asked, and not used up. -/
theorem Server.conserves_codes (server : Server) :
    (∀ (store : Store) (a : Arrival), (server.exchange store a).ChangesAsTold) ∧
    ∀ (start : Instant) (arrivals : List Arrival),
      (Run.issuedCodes (server.run (.initial start) arrivals)).Nodup →
      ∀ (code : String) (grant : Grant),
        (server.storeAfter (.initial start) arrivals).grant? code = some grant ↔
          (∃ x ∈ server.run (.initial start) arrivals,
            x.HandsOutCode ∧ x.drawnCode = code ∧ grant.Records x.toArrival) ∧
          ∀ x ∈ server.run (.initial start) arrivals, x.UsesUpCode → x.redemption.code ≠ code := by
  refine ⟨fun store a => (server.outcome_exchange store a).changesAsTold, ?_⟩
  intro start arrivals hnodup code grant
  rw [Run.grant?_storeAfter_iff server hnodup (fun _ _ => Store.grant?_initial start _) code grant,
    Store.grant?_initial, Run.mem_issued_iff, Run.notMem_usedUp_iff]
  simp only [reduceCtorEq, false_or]

/-- The code of the sample client is put into the store for what the client asked, and is outstanding
behind the run that issues it. -/
theorem Server.conserves_code_of_sample :
    (Run.issuedCodes (Sample.server.run (.initial ⟨0, 0⟩) [Sample.ask])).Nodup ∧
      (Sample.server.exchange (.initial ⟨0, 0⟩) Sample.ask).after.grants
        = (Store.initial ⟨0, 0⟩).grants.insert Sample.ask.drawnCode Sample.grant ∧
      (Sample.server.storeAfter (.initial ⟨0, 0⟩) [Sample.ask]).grant? Sample.ask.drawnCode
        = some Sample.grant := by
  have hnodup : (Run.issuedCodes (Sample.server.run (.initial ⟨0, 0⟩) [Sample.ask])).Nodup :=
    Run.nodup_issuedCodes_cons_iff.mpr ⟨fun _ _ _ => List.not_mem_nil, List.nodup_nil⟩
  have hissues := Sample.server.issues_exchange _ (Sample.mayHaveCode_ask ⟨0, 0⟩)
  have hrecords : Sample.grant.Records Sample.ask := Grant.records_iff.mpr Sample.drawnGrant_ask
  obtain ⟨htold, houtstanding⟩ := conserves_codes Sample.server
  refine ⟨hnodup, ?_, (houtstanding _ _ hnodup _ _).mpr ⟨?_, ?_⟩⟩
  · obtain ⟨grant, hgrant, hafter⟩ := (htold (.initial ⟨0, 0⟩) Sample.ask).issued hissues.handsOut
    rw [hafter, ← Grant.records_iff.mp hgrant, ← Sample.drawnGrant_ask]
    rfl
  · exact ⟨_, List.mem_singleton.mpr rfl, hissues.handsOut, rfl, hrecords⟩
  · intro x hx hused
    rw [List.mem_singleton.mp hx] at hused
    exact absurd hused (Exchange.not_usesUp_of_path hissues.request.2 (by decide))

end CodeGrant
