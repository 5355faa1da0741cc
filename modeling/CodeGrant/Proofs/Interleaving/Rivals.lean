import CodeGrant.Proofs.Interleaving

/-! # A valid attempt among rejected ones

One call for a code passes its check, and any number of other calls for the same code fail
theirs, while the code has not expired (`Scene.IsContest`).  A call that fails its check
never uses the code up: it puts the code back.  But between its two steps it **holds** the
code, and a valid attempt that comes just then finds nothing.

So a valid attempt is given the grant unless it takes its step while another call holds the
code; it is then told that there is no such code, and the code is still there for the next
attempt (`Scene.valid_attempt_fails_only_while_held`).  Three steps are enough for this to
happen (`Scene.valid_attempt_fails_of_rivals`). -/

namespace CodeGrant

/-- A call that finds nothing is told so. -/
@[simp] theorem RedeemCall.judge_none (call : RedeemCall) :
    call.judge none = .returned (.error (.invalidGrant none)) := rfl

namespace Scene

variable {ι : Type*} {calls : ι → RedeemCall} {s : Scene ι} {code : String} {grant : Grant}
  {i j : ι}

/-! ## The phase of a call along a run -/

section

variable [DecidableEq ι] {moves : List (Move ι)}

theorem run_append (s : Scene ι) (first second : List (Move ι)) :
    s.run calls (first ++ second) = (s.run calls first).run calls second := by
  induction first generalizing s with
  | nil => rfl
  | cons m first ih => exact ih _

/-- A call moves by its own steps only. -/
theorem phase_move_of_ne {m : Move ι} (h : m ≠ .step i) : (s.move calls m).phase i = s.phase i := by
  cases m with
  | put other grant => rfl
  | insert client => rfl
  | step j =>
    refine Function.update_of_ne ?_ _ _
    rintro rfl
    exact h rfl

/-- A call that has not taken a step is where it was. -/
theorem phase_run_of_notMem (h : .step i ∉ moves) : (s.run calls moves).phase i = s.phase i := by
  induction moves generalizing s with
  | nil => rfl
  | cons m moves ih =>
    rw [List.mem_cons, not_or] at h
    rw [run_cons, ih h.2, phase_move_of_ne (Ne.symm h.1)]

/-- A call that has returned has returned for good. -/
theorem phase_run_of_returned {result : Except ProtocolError Grant}
    (h : s.phase i = .returned result) : (s.run calls moves).phase i = .returned result := by
  induction moves generalizing s with
  | nil => exact h
  | cons m moves ih =>
    refine ih ?_
    by_cases hm : m = .step i
    · subst hm
      simp [Scene.move, h, RedeemCall.step]
    · rw [phase_move_of_ne hm, h]

end

/-! ## Contests -/

/-- One call for a code passes its check and all others fail theirs, and the code has not expired
for any of them. -/
structure IsContest (calls : ι → RedeemCall) (code : String) (grant : Grant) (i : ι) : Prop where
  code_eq : (calls i).code = code
  live : ∀ j, (calls j).code = code → grant.isExpiredAt (calls j).now = false
  accepts : (calls i).check grant = .ok ()
  rejects : ∀ j, j ≠ i → (calls j).code = code → ∃ error, (calls j).check grant = .error error

namespace IsContest

/-- The valid attempt is given the grant if it finds it. -/
theorem judge_self (h : IsContest calls code grant i) :
    (calls i).judge (some grant) = .returned (.ok grant) := by
  simp only [RedeemCall.judge, h.live i h.code_eq, h.accepts, Bool.false_eq_true, if_false]

/-- Any other attempt holds the grant if it finds it, until it puts it back. -/
theorem judge_other (h : IsContest calls code grant i) (hne : j ≠ i)
    (hcode : (calls j).code = code) :
    ∃ error, (calls j).judge (some grant) = .holding grant error := by
  obtain ⟨error, hcheck⟩ := h.rejects j hne hcode
  refine ⟨error, ?_⟩
  simp only [RedeemCall.judge, h.live j hcode, hcheck, Bool.false_eq_true, if_false]

variable [DecidableEq ι]

/-- A code that another attempt owns is held by it, and by it alone. -/
theorem existsUnique_holds (h : IsContest calls code grant i) (howned : s.IsOwned calls code grant j)
    (hne : j ≠ i) : ∃! k, s.Holds calls code k := by
  obtain ⟨error, hjudge⟩ := h.judge_other hne howned.code_eq
  have hholds : s.Holds calls code j :=
    ⟨howned.code_eq, grant, error, howned.phase.trans hjudge⟩
  exact ⟨j, hholds, fun k hk => howned.eq_of_holds hk⟩

/-- **An attempt that fails its check is never given the grant.** -/
theorem not_given (h : IsContest calls code grant i)
    (hrun : s.IsKept calls code grant ∨ ∃ k, s.IsOwned calls code grant k) (hne : j ≠ i)
    (hcode : (calls j).code = code) (given : Grant) : s.phase j ≠ .returned (.ok given) := by
  intro hgiven
  -- Whoever was given the grant owns it, but this call would be holding it.
  have howned : s.IsOwned calls code grant j :=
    isOwned_of_not_isIdle hrun hcode fun hidle => hidle.ne_ok given hgiven
  obtain ⟨error, hjudge⟩ := h.judge_other hne hcode
  have hholding : s.phase j = .holding grant error := howned.phase.trans hjudge
  rw [hgiven] at hholding
  cases hholding

/-- **A valid attempt that finds the code is given the grant.** -/
theorem phase_step_of_isKept (h : IsContest calls code grant i)
    (hkept : s.IsKept calls code grant) (hwaiting : s.phase i = .waiting) :
    (s.move calls (.step i)).phase i = .returned (.ok grant) := by
  have hfound : s.store.grant? (calls i).code = some grant := by
    rw [h.code_eq]
    exact hkept.known
  simp [Scene.move, hwaiting, RedeemCall.step, Store.takeCode, hfound, h.judge_self]

/-- **A valid attempt that comes while the code is away is told that there is none.** -/
theorem phase_step_of_isOwned (h : IsContest calls code grant i)
    (howned : s.IsOwned calls code grant j) (hwaiting : s.phase i = .waiting) :
    (s.move calls (.step i)).phase i = .returned (.error (.invalidGrant none)) := by
  have hnothing : s.store.grant? (calls i).code = none := by
    rw [h.code_eq]
    exact howned.taken
  simp [Scene.move, hwaiting, RedeemCall.step, Store.takeCode, hnothing]

end IsContest

section

variable [DecidableEq ι]

/-- **A valid attempt fails only while a rejected one holds the code.**  No rejected attempt is ever
given the grant.  A valid attempt returns with its first step.  If no other call holds the code at
that moment, it is given the grant that was put.  If one does, it is told that there is no such
code; the code is then not used up, but in the store or held by one call that will put it back. -/
theorem valid_attempt_fails_only_while_held (h : IsContest calls code grant i) (store : Store)
    (moves : List (Move ι)) (hmoves : ∀ m ∈ moves, ¬ m.Puts code) :
    let s := (start (store.putCode code grant)).run calls moves
    (∀ j given, j ≠ i → (calls j).code = code → s.phase j ≠ .returned (.ok given)) ∧
    ∀ earlier later, moves = earlier ++ .step i :: later → .step i ∉ earlier →
      let t := (start (store.putCode code grant)).run calls earlier
      ((∀ j, ¬ t.Holds calls code j) → s.phase i = .returned (.ok grant)) ∧
      ((∃ j, t.Holds calls code j) → s.phase i = .returned (.error (.invalidGrant none)) ∧
        (s.store.grant? code = some grant ∨ ∃! j, s.Holds calls code j)) := by
  intro s
  have hstart : (start (store.putCode code grant) : Scene ι).IsKept calls code grant :=
    isKept_start store
  have hrun : s.IsKept calls code grant ∨ ∃ k, s.IsOwned calls code grant k :=
    kept_or_owned_run (.inl hstart) hmoves
  refine ⟨fun j given hne hcode => h.not_given hrun hne hcode given, ?_⟩
  rintro earlier later rfl hfirst t
  -- The scene just before the valid attempt takes its step.
  have hbefore : t.IsKept calls code grant ∨ ∃ k, t.IsOwned calls code grant k :=
    kept_or_owned_run (.inl hstart) fun m hm => hmoves m (List.mem_append_left _ hm)
  have hwaiting : t.phase i = .waiting := phase_run_of_notMem hfirst
  have hs : s = (t.move calls (.step i)).run calls later := run_append _ earlier (.step i :: later)
  have hother : ∀ k, t.IsOwned calls code grant k → k ≠ i := by
    rintro k howned rfl
    exact (calls k).judge_ne_waiting _ (howned.phase.symm.trans hwaiting)
  constructor
  · intro hfree
    rcases hbefore with hkept | ⟨k, howned⟩
    · rw [hs]
      exact phase_run_of_returned (h.phase_step_of_isKept hkept hwaiting)
    · obtain ⟨j, hj, -⟩ := h.existsUnique_holds howned (hother k howned)
      exact absurd hj (hfree j)
  · rintro ⟨j, hj⟩
    obtain ⟨k, howned⟩ : ∃ k, t.IsOwned calls code grant k :=
      hbefore.resolve_left fun hkept => hkept.not_holds j hj
    have htold : s.phase i = .returned (.error (.invalidGrant none)) := by
      rw [hs]
      exact phase_run_of_returned (h.phase_step_of_isOwned howned hwaiting)
    refine ⟨htold, ?_⟩
    rcases hrun with hkept | ⟨l, howner⟩
    · exact .inl hkept.known
    · -- The valid attempt does not own the code, since it has not been given the grant.
      have hne : l ≠ i := by
        rintro rfl
        have hgiven : s.phase l = .returned (.ok grant) := howner.phase.trans h.judge_self
        cases htold.symm.trans hgiven
      exact .inr (h.existsUnique_holds howner hne)

end

/-! ## Two calls -/

/-- Two calls for one code; the first names another client. -/
def rivalCalls (i : Fin 2) : RedeemCall :=
  ⟨"code", ⟨0, 0⟩, fun _ => if i = 0 then .error (.invalidClient none) else .ok ()⟩

@[simp] theorem code_rivalCalls (i : Fin 2) : (rivalCalls i).code = "code" := rfl

@[simp] theorem judge_rivalCalls_zero :
    (rivalCalls 0).judge (some sampleGrant) = .holding sampleGrant (.invalidClient none) := rfl

theorem isContest_rivalCalls : IsContest rivalCalls "code" sampleGrant 1 where
  code_eq := rfl
  live _ _ := rfl
  accepts := rfl
  rejects j hne _ := by
    obtain rfl : j = 0 := by omega
    exact ⟨.invalidClient none, rfl⟩

/-- The valid attempt comes when the other has put the code back. -/
theorem valid_attempt_fails_only_while_held_of_rivals :
    let s := (start ((Store.initial ⟨0, 0⟩).putCode "code" sampleGrant)).run rivalCalls
      [.step 0, .step 0, .step 1]
    s.phase 1 = .returned (.ok sampleGrant) := by
  intro s
  obtain ⟨-, hvalid⟩ := valid_attempt_fails_only_while_held isContest_rivalCalls (.initial ⟨0, 0⟩)
    [.step 0, .step 0, .step 1] (by simp [Move.Puts])
  obtain ⟨hgiven, -⟩ := hvalid [.step 0, .step 0] [] rfl (by simp)
  refine hgiven fun j hj => ?_
  obtain ⟨-, other, error, hphase⟩ := hj
  have hcases : j = 0 ∨ j = 1 := by omega
  rcases hcases with rfl | rfl
  · simp [start, Scene.move, RedeemCall.step, Store.takeCode] at hphase
  · simp [start, Scene.move] at hphase

/-- **A rejected attempt can spoil a valid one.**  The valid attempt comes between the two steps of
the other, and is told that there is no such code. -/
theorem valid_attempt_fails_of_rivals : IsContest rivalCalls "code" sampleGrant 1 ∧
    let s := (start ((Store.initial ⟨0, 0⟩).putCode "code" sampleGrant)).run rivalCalls
      [.step 0, .step 1, .step 0]
    s.phase 0 = .returned (.error (.invalidClient none)) ∧
      s.phase 1 = .returned (.error (.invalidGrant none)) ∧
      s.store.grant? "code" = some sampleGrant := by
  refine ⟨isContest_rivalCalls, ?_⟩
  simp [start, Scene.move, RedeemCall.step, Store.takeCode]

end Scene

end CodeGrant
