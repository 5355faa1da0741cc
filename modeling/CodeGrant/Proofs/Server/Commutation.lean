import CodeGrant.Proofs.Server.Footprint

/-! # Independent requests commute

Two requests clash if they have to do with the same entry of the store: both show the same
code, one shows the code that is drawn for the other, one names the client whose identifier
is drawn for the other, or the same code or the same identifier is drawn for both
(`Arrival.Clashes`).

Two requests that do not clash may come in either order (`Server.exchange_comm`): what one
of them changes the other does not see, and the changes are at different places.  So a
request may be handled before or after any number of requests with which it does not
clash. -/

namespace CodeGrant

namespace Arrival

/-- Whether two requests have to do with the same client or with the same code. -/
inductive Clashes (a b : Arrival) : Prop
  | bothShow {code : String} (ha : a.shown? = some code) (hb : b.shown? = some code)
  | showsDrawn {code : String} (ha : a.shown? = some code) (hb : b.drawn? = some code)
  | drawsShown {code : String} (ha : a.drawn? = some code) (hb : b.shown? = some code)
  | namesEnrolled {id : String} (ha : a.named? = some id) (hb : b.enrolled? = some id)
  | enrolsNamed {id : String} (ha : a.enrolled? = some id) (hb : b.named? = some id)
  | bothDraw {code : String} (ha : a.drawn? = some code) (hb : b.drawn? = some code)
  | bothEnrol {id : String} (ha : a.enrolled? = some id) (hb : b.enrolled? = some id)

variable {a b : Arrival} {c d : Store.Change}

theorem Clashes.symm (h : a.Clashes b) : b.Clashes a := by
  cases h with
  | bothShow ha hb => exact .bothShow hb ha
  | showsDrawn ha hb => exact .drawsShown hb ha
  | drawsShown ha hb => exact .showsDrawn hb ha
  | namesEnrolled ha hb => exact .enrolsNamed hb ha
  | enrolsNamed ha hb => exact .namesEnrolled hb ha
  | bothDraw ha hb => exact .bothDraw hb ha
  | bothEnrol ha hb => exact .bothEnrol hb ha

/-! ## Where a request changes the store -/

/-- The only client that changes is the one whose identifier is drawn. -/
theorem MayMake.enrolled?_eq {id : String} (h : a.MayMake c)
    (hentry : c.entry? = some (.client id)) : a.enrolled? = some id := by
  cases h with
  | nothing => cases hentry
  | insertClient h =>
    cases hentry
    exact h
  | putCode h => cases hentry
  | eraseCode h => cases hentry

/-- The only code that changes is the one that is drawn or shown. -/
theorem MayMake.drawn?_or_shown? {code : String} (h : a.MayMake c)
    (hentry : c.entry? = some (.code code)) : a.drawn? = some code ∨ a.shown? = some code := by
  cases h with
  | nothing => cases hentry
  | insertClient h => cases hentry
  | putCode h =>
    cases hentry
    exact .inl h
  | eraseCode h =>
    cases hentry
    exact .inr h

/-- **What a request changes is not seen by a request with which it does not clash.** -/
theorem MayMake.seesAlike_apply (hd : b.MayMake d) (h : ¬ a.Clashes b) (s : Store) :
    a.SeesAlike s (d.apply s) where
  redirectUris id hnamed := by
    have hentry : d.entry? ≠ some (.client id) := fun hentry =>
      h (.namesEnrolled hnamed (hd.enrolled?_eq hentry))
    have hsame : (d.apply s).client? id = s.client? id := Store.Change.sameAt_apply s hentry
    rw [hsame]
  grant code hshown := by
    have hentry : d.entry? ≠ some (.code code) := by
      intro hentry
      rcases hd.drawn?_or_shown? hentry with hdrawn | hshown'
      · exact h (.showsDrawn hshown hdrawn)
      · exact h (.bothShow hshown hshown')
    exact (Store.Change.sameAt_apply s hentry).symm

/-- **Requests that do not clash change different places.** -/
theorem MayMake.entry?_ne (hc : a.MayMake c) (hd : b.MayMake d) (h : ¬ a.Clashes b)
    (e : Store.Entry) (hce : c.entry? = some e) : d.entry? ≠ some e := by
  intro hde
  cases e with
  | client id => exact h (.bothEnrol (hc.enrolled?_eq hce) (hd.enrolled?_eq hde))
  | code code =>
    rcases hc.drawn?_or_shown? hce with ha | ha <;> rcases hd.drawn?_or_shown? hde with hb | hb
    · exact h (.bothDraw ha hb)
    · exact h (.drawsShown ha hb)
    · exact h (.showsDrawn ha hb)
    · exact h (.bothShow ha hb)

end Arrival

namespace Server

variable (server : Server) {a b : Arrival}

/-- What a request changes makes no difference to the answer of a request with which it does not
clash. -/
theorem response_exchange_after (store : Store) (h : ¬ a.Clashes b) :
    (server.exchange (server.exchange store b).after a).response
      = (server.exchange store a).response := by
  obtain ⟨_, d, hd, hb, -⟩ := server.exchange_congr (Arrival.SeesAlike.refl b store)
  obtain ⟨_, c, -, ha, hba⟩ := server.exchange_congr (hd.seesAlike_apply h store)
  simp only [hb, hba, ha]

/-- Requests that do not clash leave the same store behind in either order. -/
theorem storeAfter_swap (store : Store) (h : ¬ a.Clashes b) :
    server.storeAfter store [a, b] = server.storeAfter store [b, a] := by
  have hsymm : ¬ b.Clashes a := fun hclash => h hclash.symm
  obtain ⟨_, c, hc, ha, -⟩ := server.exchange_congr (Arrival.SeesAlike.refl a store)
  obtain ⟨_, d, hd, hb, hab⟩ := server.exchange_congr (hc.seesAlike_apply hsymm store)
  obtain ⟨_, c', hc', ha', hba⟩ := server.exchange_congr (hd.seesAlike_apply h store)
  -- The first request makes the same change as it does when it comes second.
  have hchange : c.apply store = c'.apply store := congrArg Exchange.after (ha.symm.trans ha')
  simp only [storeAfter_cons, storeAfter_nil, ha, hb, hab, hba]
  calc d.apply (c.apply store) = d.apply (c'.apply store) := by rw [hchange]
    _ = c'.apply (d.apply store) := Store.Change.apply_comm (hd.entry?_ne hc' hsymm) store

/-- **Requests that do not clash may come in either order**: each of them gets the same response,
and the store behind both is the same. -/
theorem exchange_comm (store : Store) (h : ¬ a.Clashes b) :
    (server.exchange (server.exchange store b).after a).response
        = (server.exchange store a).response ∧
      (server.exchange (server.exchange store a).after b).response
        = (server.exchange store b).response ∧
      server.storeAfter store [a, b] = server.storeAfter store [b, a] :=
  ⟨server.response_exchange_after store h,
    server.response_exchange_after store fun hclash => h hclash.symm,
    server.storeAfter_swap store h⟩

end Server

namespace Sample

/-- A client registers, and another asks for a code. -/
theorem not_clashes_enrol_ask : ¬ enrol.Clashes ask := by
  have hshown : enrol.shown? = none := if_neg fun h => absurd h.1.2 (by decide)
  have hdrawn : enrol.drawn? = none := if_neg fun h => absurd h.2 (by decide)
  have hnamed : enrol.named? = none := if_neg fun h => absurd h.2 (by decide)
  have hnamed' : ask.named? = some "sample-client" := by
    rw [Arrival.named?_of_looksAt ⟨.inl rfl, rfl⟩, authorization_ask]
    rfl
  have henrolled' : ask.enrolled? = none := if_neg fun h => absurd h.2 (by decide)
  intro h
  cases h with
  | bothShow ha hb => exact absurd (hshown.symm.trans ha) (by simp)
  | showsDrawn ha hb => exact absurd (hshown.symm.trans ha) (by simp)
  | drawsShown ha hb => exact absurd (hdrawn.symm.trans ha) (by simp)
  | namesEnrolled ha hb => exact absurd (hnamed.symm.trans ha) (by simp)
  | enrolsNamed ha hb =>
    -- The identifiers that are drawn are not words.
    rw [Arrival.enrolled?_of_posts ⟨rfl, rfl⟩] at ha
    rw [hnamed'] at hb
    exact absurd (ha.trans hb.symm) (by decide +kernel)
  | bothDraw ha hb => exact absurd (hdrawn.symm.trans ha) (by simp)
  | bothEnrol ha hb => exact absurd (henrolled'.symm.trans hb) (by simp)

end Sample

/-- So the code is issued also when the other client registers first, and the registration is
answered as if nothing had been asked for. -/
theorem Server.exchange_comm_enrol_ask :
    let store := Store.initial ⟨0, 0⟩
    let server := Sample.server
    ¬ Sample.enrol.Clashes Sample.ask ∧
      (server.exchange (server.exchange store Sample.ask).after Sample.enrol).response
        = (server.exchange store Sample.enrol).response ∧
      (server.exchange (server.exchange store Sample.enrol).after Sample.ask).response.status = 302 ∧
      server.storeAfter store [Sample.enrol, Sample.ask]
        = server.storeAfter store [Sample.ask, Sample.enrol] := by
  intro store server
  obtain ⟨henrol, hask, hafter⟩ := server.exchange_comm store Sample.not_clashes_enrol_ask
  refine ⟨Sample.not_clashes_enrol_ask, henrol, ?_, hafter⟩
  rw [hask]
  exact (server.issues_exchange store (Sample.mayHaveCode_ask _)).status

namespace Server

variable (server : Server) {a : Arrival}

/-! ## A request and a run -/

/-- **A request that clashes with none of a run may come before it or behind it.** -/
theorem run_comm (store : Store) {arrivals : List Arrival}
    (h : ∀ b ∈ arrivals, ¬ a.Clashes b) :
    (server.exchange (server.storeAfter store arrivals) a).response
        = (server.exchange store a).response ∧
      (server.run (server.exchange store a).after arrivals).map (·.response)
        = (server.run store arrivals).map (·.response) ∧
      server.storeAfter store (a :: arrivals) = server.storeAfter store (arrivals ++ [a]) := by
  induction arrivals generalizing store with
  | nil => exact ⟨rfl, rfl, rfl⟩
  | cons b arrivals ih =>
    have hab : ¬ a.Clashes b := h b List.mem_cons_self
    have hfirst := server.response_exchange_after store hab
    have hsecond := server.response_exchange_after store fun hclash => hab hclash.symm
    have hswap := server.storeAfter_swap store hab
    obtain ⟨hlast, hrun, hafter⟩ := ih (server.exchange store b).after fun c hc =>
      h c (List.mem_cons_of_mem b hc)
    simp only [storeAfter_cons, storeAfter_nil] at hswap hafter
    refine ⟨hlast.trans hfirst, ?_, ?_⟩
    · simp only [run_cons, List.map_cons, hsecond, hswap, hrun]
    · simp only [List.cons_append, storeAfter_cons, hswap, hafter]

end Server

end CodeGrant
