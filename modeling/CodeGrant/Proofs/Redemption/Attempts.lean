import CodeGrant.Proofs.Interleaving

/-! # Attempts at a code, one after another

A call that nothing interrupts finds the code or does not, and its check decides only what it finds
in time.  A check that refuses leaves the store as it was, entry for entry, whatever it refuses for.

So attempts may be made in any number, each with a check of its own, and for other codes in between.
As long as each attempt at the code comes in time and is refused, the code stays
(`Store.grant?_afterAll_of_refused`); the first that is accepted is given the grant that was put, and
the code is unknown to every later one (`Store.unknown_of_mem_attempts`). -/

namespace CodeGrant

namespace RedeemCall

variable (call : RedeemCall)

/-- What comes of a call that nothing interrupts. -/
def redeem (store : Store) : Except ProtocolError Grant × Store :=
  store.redeem call.code call.now call.check

/-- Whether the call comes in time for a grant and its check refuses it. -/
structure IsRefused (grant : Grant) : Prop where
  live : call.now.isAfter grant.expiresAt = false
  refused : ∃ error, call.check grant = .error error

/-- Whether the call comes in time for a grant and its check accepts it. -/
structure IsAccepted (grant : Grant) : Prop where
  live : call.now.isAfter grant.expiresAt = false
  accepted : call.check grant = .ok ()

/-- A call leaves the store as it was, or without its code. -/
theorem store_redeem_cases (store : Store) :
    (call.redeem store).2 = store ∨ (call.redeem store).2 = store.eraseCode call.code := by
  unfold redeem
  cases hgrant : store.grant? call.code with
  | none =>
    left
    rw [Store.redeem_of_unknown hgrant]
  | some grant =>
    cases hexpired : grant.isExpiredAt call.now with
    | true =>
      right
      rw [Store.redeem_of_expired hgrant hexpired]
    | false =>
      cases hcheck : call.check grant with
      | error error =>
        left
        rw [Store.redeem_of_refused hgrant hexpired hcheck]
      | ok _ =>
        right
        rw [Store.redeem_of_accepted hgrant hexpired hcheck]

/-- A call does not touch another code. -/
theorem grant?_redeem_of_ne {code : String} (store : Store) (h : call.code ≠ code) :
    (call.redeem store).2.grant? code = store.grant? code := by
  rcases call.store_redeem_cases store with hstore | hstore
  · rw [hstore]
  · rw [hstore, Store.grant?_eraseCode, if_neg h]

/-- No call brings a code. -/
theorem grant?_redeem_of_unknown {code : String} {store : Store} (h : store.grant? code = none) :
    (call.redeem store).2.grant? code = none := by
  rcases call.store_redeem_cases store with hstore | hstore
  · rw [hstore, h]
  · rw [hstore, Store.grant?_eraseCode, h, ite_self]

end RedeemCall

namespace Store

/-- The store behind calls that are made one after another. -/
def afterAll : Store → List RedeemCall → Store
  | store, [] => store
  | store, call :: calls => afterAll (call.redeem store).2 calls

/-- Calls that are made one after another, with what comes of each. -/
def attempts : Store → List RedeemCall → List (RedeemCall × Except ProtocolError Grant)
  | _, [] => []
  | store, call :: calls => (call, (call.redeem store).1) :: attempts (call.redeem store).2 calls

variable {store : Store} {code : String} {grant : Grant} {calls : List RedeemCall}

/-- **Refusals leave a code where it is**, however many there are. -/
theorem grant?_afterAll_of_refused (h : store.grant? code = some grant)
    (hrefused : ∀ call ∈ calls, call.code = code → call.IsRefused grant) :
    (store.afterAll calls).grant? code = some grant := by
  induction calls generalizing store with
  | nil => exact h
  | cons call calls ih =>
    obtain ⟨hcall, hcalls⟩ := List.forall_mem_cons.mp hrefused
    refine ih ?_ hcalls
    by_cases hcode : call.code = code
    · obtain ⟨hlive, error, hcheck⟩ := hcall hcode
      rw [RedeemCall.redeem, redeem_of_refused (hcode ▸ h) hlive hcheck, h]
    · rw [call.grant?_redeem_of_ne store hcode, h]

/-- Each of them is told what its own check says. -/
theorem refused_of_mem_attempts (h : store.grant? code = some grant)
    (hrefused : ∀ call ∈ calls, call.code = code → call.IsRefused grant)
    {attempt : RedeemCall × Except ProtocolError Grant} (hmem : attempt ∈ store.attempts calls)
    (hcode : attempt.1.code = code) :
    ∃ error, attempt.1.check grant = .error error ∧ attempt.2 = .error error := by
  induction calls generalizing store with
  | nil => cases hmem
  | cons call calls ih =>
    obtain ⟨hcall, hcalls⟩ := List.forall_mem_cons.mp hrefused
    rcases List.mem_cons.mp hmem with rfl | hmem
    · obtain ⟨hlive, error, hcheck⟩ := hcall hcode
      exact ⟨error, hcheck, by rw [RedeemCall.redeem, redeem_of_refused (hcode ▸ h) hlive hcheck]⟩
    · have hone : ∀ other ∈ [call], other.code = code → other.IsRefused grant :=
        List.forall_mem_singleton.mpr hcall
      exact ih (grant?_afterAll_of_refused h hone) hcalls hmem

/-- **A code that is gone is unknown to every later attempt.** -/
theorem unknown_of_mem_attempts (h : store.grant? code = none)
    {attempt : RedeemCall × Except ProtocolError Grant} (hmem : attempt ∈ store.attempts calls)
    (hcode : attempt.1.code = code) : attempt.2 = .error (.invalidGrant none) := by
  induction calls generalizing store with
  | nil => cases hmem
  | cons call calls ih =>
    rcases List.mem_cons.mp hmem with rfl | hmem
    · rw [RedeemCall.redeem, redeem_of_unknown (hcode ▸ h)]
    · exact ih (call.grant?_redeem_of_unknown h) hmem

/-- **What comes of a redemption, for any check.**  An unknown code and an expired one are refused
without a look at the check, the latter for good; a check that refuses is told as it stands and
changes nothing; a check that accepts is given the grant, and the code is gone.  Hence a code that is
put survives every attempt that comes in time and is refused, is given to the first that is accepted
as it was put, and is unknown to all that follow. -/
theorem redemption_decided (store : Store) (code : String) :
    (∀ now check, store.grant? code = none →
      store.redeem code now check = (.error (.invalidGrant none), store)) ∧
    (∀ grant now check, store.grant? code = some grant → now.isAfter grant.expiresAt = true →
      store.redeem code now check
        = (.error (.invalidGrant (some "authorization code expired")), store.eraseCode code)) ∧
    (∀ grant now check error, store.grant? code = some grant →
      now.isAfter grant.expiresAt = false → check grant = .error error →
        store.redeem code now check = (.error error, store)) ∧
    (∀ grant now check, store.grant? code = some grant → now.isAfter grant.expiresAt = false →
      check grant = .ok () →
        store.redeem code now check = (.ok grant, store.eraseCode code)) ∧
    ∀ (grant : Grant) (earlier : List RedeemCall) (call : RedeemCall) (later : List RedeemCall),
      (∀ other ∈ earlier, other.code = code → other.IsRefused grant) →
      call.code = code → call.IsAccepted grant →
      let start := store.putCode code grant
      (∀ attempt ∈ start.attempts earlier, attempt.1.code = code →
        ∃ error, attempt.1.check grant = .error error ∧ attempt.2 = .error error) ∧
      (call.redeem (start.afterAll earlier)).1 = .ok grant ∧
      ∀ attempt ∈ (call.redeem (start.afterAll earlier)).2.attempts later, attempt.1.code = code →
        attempt.2 = .error (.invalidGrant none) := by
  refine ⟨fun now check => redeem_of_unknown, fun grant now check => redeem_of_expired,
    fun grant now check error => redeem_of_refused, fun grant now check => redeem_of_accepted, ?_⟩
  intro grant earlier call later hrefused hcode haccepted start
  have hput : start.grant? code = some grant := by
    rw [grant?_putCode, if_pos rfl]
  have hkept := grant?_afterAll_of_refused hput hrefused
  have hredeem : call.redeem (start.afterAll earlier)
      = (.ok grant, (start.afterAll earlier).eraseCode code) := by
    obtain ⟨hlive, hcheck⟩ := haccepted
    rw [RedeemCall.redeem, redeem_of_accepted (hcode ▸ hkept) hlive hcheck, hcode]
  refine ⟨fun attempt => refused_of_mem_attempts hput hrefused, by rw [hredeem], fun attempt => ?_⟩
  refine unknown_of_mem_attempts ?_
  rw [hredeem, grant?_eraseCode, if_pos rfl]

/-- A code that is refused twice, for different reasons, and then accepted; who comes later finds
nothing. -/
theorem redemption_decided_of_sample :
    let grant : Grant := ⟨"client", "http://a", "challenge", "S256", "http://b", "read", ⟨600, 0⟩⟩
    let refuse (error : ProtocolError) : RedeemCall := ⟨"code", ⟨600, 0⟩, fun _ => .error error⟩
    let accept (seconds : Int) : RedeemCall := ⟨"code", ⟨seconds, 0⟩, fun _ => .ok ()⟩
    let start := (initial ⟨0, 0⟩).putCode "code" grant
    let refused := start.afterAll [refuse (.invalidClient none), refuse .codeExpired]
    ((accept 600).redeem refused).1 = .ok grant ∧
      (accept 601).redeem start
        = (.error (.invalidGrant (some "authorization code expired")), start.eraseCode "code") ∧
      ∀ attempt ∈ ((accept 600).redeem refused).2.attempts [accept 0, accept 601],
        attempt.2 = .error (.invalidGrant none) := by
  intro grant refuse accept start refused
  have hput : start.grant? "code" = some grant := by
    rw [grant?_putCode, if_pos rfl]
  obtain ⟨-, hexpired, -, -, -⟩ := redemption_decided start "code"
  obtain ⟨-, -, -, -, hrun⟩ := redemption_decided (initial ⟨0, 0⟩) "code"
  obtain ⟨-, haccepted, hlater⟩ := hrun grant
    [refuse (.invalidClient none), refuse .codeExpired] (accept 600) [accept 0, accept 601]
    (fun other hother _ => by
      simp only [List.mem_cons, List.not_mem_nil, or_false] at hother
      rcases hother with rfl | rfl <;> exact ⟨by decide, _, rfl⟩)
    rfl ⟨by decide, rfl⟩
  refine ⟨haccepted, hexpired grant _ _ hput (by decide), fun attempt hmem => hlater attempt hmem ?_⟩
  simp only [attempts, List.mem_cons, List.not_mem_nil, or_false] at hmem
  rcases hmem with rfl | rfl <;> rfl

end Store

end CodeGrant
