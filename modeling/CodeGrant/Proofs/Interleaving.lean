import Mathlib.Logic.Function.Basic
import CodeGrant.Proofs.Redemption

/-! # Redemptions that run at the same time

`Store.redeem` is not one step.  A call takes the code out of the store, and if the code
has not expired but fails the check, it puts the code back some time later; in between,
other calls take their steps (`RedeemCall.step`).  A scene is a store with the phases of
any number of such calls, and a run makes moves in any order.

Whoever takes a code **owns** it.  In a run that does not put the code anew it is either
**kept** in the store, and then no call owns it, or owned by exactly one call
(`Scene.kept_or_owned_run`).  An owner that has returned owns the code for good
(`Scene.IsOwned.run`), so a code is redeemed at most once
(`Scene.redeemed_at_most_once`).

Whether a code is gone cannot be told from the words "authorization code expired" alone:
a check may use the same words for a code that goes back
(`Scene.keeps_code_of_check`). -/

namespace CodeGrant

/-! ## One call -/

/-- A call that redeems a code: what is shown, what the clock reads, and how the grant is judged. -/
structure RedeemCall where
  code : String
  now : Instant
  check : Grant → Except ProtocolError Unit

namespace RedeemCall

/-- How far a call has come. -/
inductive Phase where
  /-- The code has yet to be taken. -/
  | waiting
  /-- The code has failed the check and has yet to be put back. -/
  | holding (grant : Grant) (error : ProtocolError)
  | returned (result : Except ProtocolError Grant)

/-- Where a call stands that has taken what was there. -/
def judge (call : RedeemCall) : Option Grant → Phase
  | none => .returned (.error (.invalidGrant none))
  | some grant =>
    if grant.isExpiredAt call.now then .returned (.error .codeExpired)
    else
      match call.check grant with
      | .error error => .holding grant error
      | .ok () => .returned (.ok grant)

/-- The next step of a call; a call that has returned takes no more. -/
def step (call : RedeemCall) (store : Store) : Phase → Store × Phase
  | .waiting => ((store.takeCode call.code).2, call.judge (store.takeCode call.code).1)
  | .holding grant error => (store.putCode call.code grant, .returned (.error error))
  | .returned result => (store, .returned result)

variable (call : RedeemCall) {grant : Grant}

/-- A call that has found a grant is to put it back, or has returned for good. -/
theorem judge_some_cases (grant : Grant) :
    (grant.isExpiredAt call.now = false ∧ ∃ error, call.check grant = .error error ∧
      call.judge (some grant) = .holding grant error) ∨
    call.judge (some grant) = .returned (.ok grant) ∨
    call.judge (some grant) = .returned (.error .codeExpired) := by
  rw [judge]
  cases hexpired : grant.isExpiredAt call.now with
  | true => exact .inr (.inr (if_pos rfl))
  | false =>
    rw [if_neg (by decide)]
    cases hcheck : call.check grant with
    | error error => exact .inl ⟨rfl, error, rfl, rfl⟩
    | ok _ => exact .inr (.inl rfl)

/-- A call holds the grant that it has found. -/
theorem eq_of_judge_eq_holding {other : Grant} {error : ProtocolError}
    (h : call.judge (some grant) = .holding other error) :
    other = grant ∧ grant.isExpiredAt call.now = false ∧ call.check grant = .error error := by
  rcases call.judge_some_cases grant with ⟨hlive, error, hcheck, hjudge⟩ | hjudge | hjudge
  · rw [hjudge] at h
    cases h
    exact ⟨rfl, hlive, hcheck⟩
  · cases hjudge.symm.trans h
  · cases hjudge.symm.trans h

/-- A call is given the grant that it has found. -/
theorem eq_of_judge_eq_ok {given : Grant}
    (h : call.judge (some grant) = .returned (.ok given)) : given = grant := by
  rcases call.judge_some_cases grant with ⟨-, _, -, hjudge⟩ | hjudge | hjudge
  · cases hjudge.symm.trans h
  · cases hjudge.symm.trans h
    rfl
  · cases hjudge.symm.trans h

theorem judge_ne_waiting (found : Option Grant) : call.judge found ≠ .waiting := by
  intro h
  cases found with
  | none => cases h
  | some grant =>
    rcases call.judge_some_cases grant with ⟨-, _, -, hjudge⟩ | hjudge | hjudge <;>
      cases hjudge.symm.trans h

/-- **A call that is alone redeems the code in two steps.** -/
theorem step_step_waiting (store : Store) :
    call.step (call.step store .waiting).1 (call.step store .waiting).2 =
      ((store.redeem call.code call.now call.check).2,
        .returned (store.redeem call.code call.now call.check).1) := by
  cases hgrant : store.grant? call.code with
  | none =>
    rw [Store.redeem_of_unknown hgrant]
    simp [step, Store.takeCode, hgrant, judge, Store.eraseCode_of_grant?_eq_none hgrant]
  | some grant =>
    cases hexpired : grant.isExpiredAt call.now with
    | true =>
      rw [Store.redeem_of_expired hgrant hexpired]
      simp [step, Store.takeCode, hgrant, judge, hexpired]
    | false =>
      cases hcheck : call.check grant with
      | error error =>
        rw [Store.redeem_of_refused hgrant hexpired hcheck]
        simp [step, Store.takeCode, hgrant, judge, hexpired, hcheck, Store.putCode_eraseCode hgrant]
      | ok _ =>
        rw [Store.redeem_of_accepted hgrant hexpired hcheck]
        simp [step, Store.takeCode, hgrant, judge, hexpired, hcheck]

/-- Whether a call in this phase has nothing to do with a grant: it has not looked for it, has not
found it, or has put it back. -/
def IsIdle (grant : Grant) (phase : Phase) : Prop :=
  phase = .waiting ∨ phase = call.judge none ∨
    ∃ error, call.judge (some grant) = .holding grant error ∧ phase = .returned (.error error)

variable {call}

theorem IsIdle.ne_holding {phase : Phase} (h : call.IsIdle grant phase) (other : Grant)
    (error : ProtocolError) : phase ≠ .holding other error := by
  rcases h with rfl | rfl | ⟨_, -, rfl⟩ <;> nofun

/-- An idle call has not been given the grant. -/
theorem IsIdle.ne_ok {phase : Phase} (h : call.IsIdle grant phase) (other : Grant) :
    phase ≠ .returned (.ok other) := by
  rcases h with rfl | rfl | ⟨_, -, rfl⟩ <;> nofun

/-- An idle call has been told that the code expired by its own check only. -/
theorem IsIdle.check_eq {phase : Phase} (h : call.IsIdle grant phase)
    (hexpired : phase = .returned (.error .codeExpired)) :
    grant.isExpiredAt call.now = false ∧ call.check grant = .error .codeExpired := by
  subst hexpired
  rcases h with h | h | ⟨error, hjudge, h⟩
  · cases h
  · cases h
  · cases h
    exact (call.eq_of_judge_eq_holding hjudge).2

end RedeemCall

/-! ## Scenes -/

variable {ι : Type*}

/-- A store, and how far each of the calls at it has come. -/
structure Scene (ι : Type*) where
  store : Store
  phase : ι → RedeemCall.Phase

/-- What may happen next at a store. -/
inductive Move (ι : Type*) where
  /-- A call takes its next step. -/
  | step (i : ι)
  /-- A code is put. -/
  | put (code : String) (grant : Grant)
  /-- A client is registered. -/
  | insert (client : Client)

/-- Whether a move puts a code, other than by putting it back. -/
def Move.Puts (code : String) : Move ι → Prop
  | put other _ => other = code
  | step _ | insert _ => False

namespace Scene

/-- All calls are yet to come. -/
def start (store : Store) : Scene ι := ⟨store, fun _ => .waiting⟩

/-! ## Who has a code -/

section

variable (calls : ι → RedeemCall) (code : String) (grant : Grant)

/-- Whether a call holds a code that it has yet to put back. -/
def Holds (s : Scene ι) (i : ι) : Prop :=
  (calls i).code = code ∧ ∃ grant error, s.phase i = .holding grant error

/-- The code is in the store, and no call has it. -/
structure IsKept (s : Scene ι) : Prop where
  known : s.store.grant? code = some grant
  idle : ∀ i, (calls i).code = code → (calls i).IsIdle grant (s.phase i)

/-- The code was taken by a call, and no other call has it. -/
structure IsOwned (i : ι) (s : Scene ι) : Prop where
  taken : s.store.grant? code = none
  code_eq : (calls i).code = code
  phase : s.phase i = (calls i).judge (some grant)
  idle : ∀ j, j ≠ i → (calls j).code = code → (calls j).IsIdle grant (s.phase j)

end

variable {calls : ι → RedeemCall} {code : String} {grant : Grant}

/-- At the start the code is where it was put. -/
theorem isKept_start (store : Store) :
    (start (store.putCode code grant) : Scene ι).IsKept calls code grant where
  known := (Store.grant?_putCode _ _ _ _).trans (if_pos rfl)
  idle _ _ := .inl rfl

/-- No call holds a code that is kept. -/
theorem IsKept.not_holds {s : Scene ι} (h : s.IsKept calls code grant) (i : ι) :
    ¬ s.Holds calls code i := by
  rintro ⟨hi, other, error, hphase⟩
  exact (h.idle i hi).ne_holding other error hphase

/-! ## Runs -/

section Runs

variable [DecidableEq ι] (calls : ι → RedeemCall)

/-- The scene after a move. -/
def move (s : Scene ι) : Move ι → Scene ι
  | .step i =>
    ⟨((calls i).step s.store (s.phase i)).1,
      Function.update s.phase i ((calls i).step s.store (s.phase i)).2⟩
  | .put code grant => { s with store := s.store.putCode code grant }
  | .insert client => { s with store := s.store.insertClient client }

/-- The scene after moves, one after the other. -/
def run (s : Scene ι) : List (Move ι) → Scene ι
  | [] => s
  | m :: moves => (s.move calls m).run moves

@[simp] theorem run_nil (s : Scene ι) : s.run calls [] = s := rfl

@[simp] theorem run_cons (s : Scene ι) (m : Move ι) (moves : List (Move ι)) :
    s.run calls (m :: moves) = (s.move calls m).run calls moves := rfl

/-- Whether a code is gone for good: whatever moves follow, as long as none of them puts it anew, it
is neither in the store nor held. -/
def IsGone (s : Scene ι) (code : String) : Prop :=
  ∀ later : List (Move ι), (∀ m ∈ later, ¬ m.Puts code) →
    (s.run calls later).store.grant? code = none ∧ ∀ i, ¬ (s.run calls later).Holds calls code i

variable {calls} {s : Scene ι} {m : Move ι} {code : String} {grant : Grant} {i : ι}

/-- **What a move can do to a code that it does not put anew.**  It leaves alone the code and all
calls for it, or a call takes what there is, or a call puts back what it holds. -/
theorem move_cases (hm : ¬ m.Puts code) :
    ((s.move calls m).store.grant? code = s.store.grant? code ∧
      ∀ i, (calls i).code = code → (s.move calls m).phase i = s.phase i) ∨
    (∃ i, (calls i).code = code ∧ s.phase i = .waiting ∧
      (s.move calls m).store.grant? code = none ∧
      (s.move calls m).phase = Function.update s.phase i ((calls i).judge (s.store.grant? code))) ∨
    ∃ i grant error, (calls i).code = code ∧ s.phase i = .holding grant error ∧
      (s.move calls m).store.grant? code = some grant ∧
      (s.move calls m).phase = Function.update s.phase i (.returned (.error error)) := by
  cases m with
  | put other grant =>
    refine .inl ⟨?_, fun _ _ => rfl⟩
    exact (Store.grant?_putCode _ _ _ _).trans (if_neg hm)
  | insert client => exact .inl ⟨Store.grant?_insertClient _ _ _, fun _ _ => rfl⟩
  | step i =>
    by_cases hi : (calls i).code = code
    · subst hi
      cases hphase : s.phase i with
      | waiting =>
        refine .inr (.inl ⟨i, rfl, hphase, ?_, ?_⟩)
        · simp [move, hphase, RedeemCall.step, Store.takeCode]
        · simp [move, hphase, RedeemCall.step, Store.takeCode]
      | holding grant error =>
        refine .inr (.inr ⟨i, grant, error, rfl, hphase, ?_, ?_⟩)
        · simp [move, hphase, RedeemCall.step]
        · simp [move, hphase, RedeemCall.step]
      | returned result =>
        refine .inl ⟨by simp [move, hphase, RedeemCall.step], fun j _ => ?_⟩
        rw [move, hphase, RedeemCall.step, ← hphase, Function.update_eq_self]
    · -- The step concerns another code.
      refine .inl ⟨?_, fun j hj => ?_⟩
      · rw [move]
        cases s.phase i with
        | waiting => simp [RedeemCall.step, Store.takeCode, hi]
        | holding grant error => simp [RedeemCall.step, hi]
        | returned result => rfl
      · refine Function.update_of_ne ?_ _ _
        rintro rfl
        exact hi hj

/-! ## Moves keep track of a code -/

/-- **A code that is kept stays in the store until a call takes it.** -/
theorem IsKept.move (h : s.IsKept calls code grant) (hm : ¬ m.Puts code) :
    (s.move calls m).IsKept calls code grant ∨ ∃ i, (s.move calls m).IsOwned calls code grant i := by
  rcases move_cases hm with ⟨hstore, hphase⟩ | ⟨i, hi, -, hstore, hphase⟩ |
    ⟨i, other, error, hi, hholding, -, -⟩
  · exact .inl ⟨hstore.trans h.known, fun i hi => hphase i hi ▸ h.idle i hi⟩
  · rw [h.known] at hphase
    refine .inr ⟨i, hstore, hi, ?_, fun j hne hj => ?_⟩
    · rw [hphase, Function.update_self]
    · rw [hphase, Function.update_of_ne hne]
      exact h.idle j hj
  · exact absurd hholding ((h.idle i hi).ne_holding other error)

/-- **An owner keeps a code until it puts it back**, and what it puts back is what was taken. -/
theorem IsOwned.move (h : s.IsOwned calls code grant i) (hm : ¬ m.Puts code) :
    (s.move calls m).IsOwned calls code grant i ∨ (s.move calls m).IsKept calls code grant ∧
      ∃ error, (calls i).judge (some grant) = .holding grant error := by
  rcases move_cases hm with ⟨hstore, hphase⟩ | ⟨j, hj, hwaiting, hstore, hphase⟩ |
    ⟨j, other, error, hj, hholding, hstore, hphase⟩
  · exact .inl ⟨hstore.trans h.taken, h.code_eq, (hphase i h.code_eq).trans h.phase,
      fun j hne hj => hphase j hj ▸ h.idle j hne hj⟩
  · -- The call that takes a step has not taken the code, so it is another one, and finds nothing.
    have hne : j ≠ i := by
      rintro rfl
      exact (calls j).judge_ne_waiting _ (h.phase.symm.trans hwaiting)
    rw [h.taken] at hphase
    refine .inl ⟨hstore, h.code_eq, ?_, fun k hk hcode => ?_⟩
    · rw [hphase, Function.update_of_ne hne.symm, h.phase]
    · by_cases hkj : k = j
      · subst hkj
        rw [hphase, Function.update_self]
        exact .inr (.inl rfl)
      · rw [hphase, Function.update_of_ne hkj]
        exact h.idle k hk hcode
  · -- Only the owner has something to put back.
    obtain rfl : j = i := by
      by_contra hne
      exact (h.idle j hne hj).ne_holding other error hholding
    rw [h.phase] at hholding
    obtain rfl := ((calls j).eq_of_judge_eq_holding hholding).1
    refine .inr ⟨⟨hstore, fun k hcode => ?_⟩, error, hholding⟩
    by_cases hkj : k = j
    · subst hkj
      rw [hphase, Function.update_self]
      exact .inr (.inr ⟨error, hholding, rfl⟩)
    · rw [hphase, Function.update_of_ne hkj]
      exact h.idle k hkj hcode

/-- **A code is kept, or owned by a call, as long as nobody puts it anew.** -/
theorem kept_or_owned_run {moves : List (Move ι)}
    (h : s.IsKept calls code grant ∨ ∃ i, s.IsOwned calls code grant i)
    (hmoves : ∀ m ∈ moves, ¬ m.Puts code) :
    (s.run calls moves).IsKept calls code grant ∨
      ∃ i, (s.run calls moves).IsOwned calls code grant i := by
  induction moves generalizing s with
  | nil => exact h
  | cons m moves ih =>
    obtain ⟨hm, hmoves⟩ := List.forall_mem_cons.mp hmoves
    refine ih ?_ hmoves
    rcases h with h | ⟨i, h⟩
    · exact h.move hm
    · rcases h.move hm with hstays | ⟨hkept, -⟩
      · exact .inr ⟨i, hstays⟩
      · exact .inl hkept

/-- **An owner that has returned owns the code for good.** -/
theorem IsOwned.run {moves : List (Move ι)} {result : Except ProtocolError Grant}
    (h : s.IsOwned calls code grant i) (hfinal : (calls i).judge (some grant) = .returned result)
    (hmoves : ∀ m ∈ moves, ¬ m.Puts code) : (s.run calls moves).IsOwned calls code grant i := by
  induction moves generalizing s with
  | nil => exact h
  | cons m moves ih =>
    obtain ⟨hm, hmoves⟩ := List.forall_mem_cons.mp hmoves
    rcases h.move hm with hstays | ⟨-, error, hholding⟩
    · exact ih hstays hmoves
    · cases hholding.symm.trans hfinal

/-! ## What the calls are told -/

/-- Nobody but the owner holds a code. -/
theorem IsOwned.eq_of_holds (h : s.IsOwned calls code grant i) {j : ι}
    (hj : s.Holds calls code j) : j = i := by
  obtain ⟨hcode, other, error, hphase⟩ := hj
  by_contra hne
  exact (h.idle j hne hcode).ne_holding other error hphase

/-- A code whose owner has returned is gone. -/
theorem IsOwned.isGone {result : Except ProtocolError Grant} (h : s.IsOwned calls code grant i)
    (hfinal : (calls i).judge (some grant) = .returned result) : s.IsGone calls code := by
  intro later hlater
  have hrun := h.run hfinal hlater
  refine ⟨hrun.taken, fun j hj => ?_⟩
  obtain rfl := hrun.eq_of_holds hj
  obtain ⟨-, other, error, hphase⟩ := hj
  rw [hrun.phase, hfinal] at hphase
  cases hphase

/-- A code that is owned is held by its owner and by nobody else, or gone. -/
theorem IsOwned.held_or_gone (h : s.IsOwned calls code grant i) :
    (∃! j, s.Holds calls code j) ∨ ((∀ j, ¬ s.Holds calls code j) ∧ s.IsGone calls code) := by
  cases hjudge : (calls i).judge (some grant) with
  | waiting => exact absurd hjudge ((calls i).judge_ne_waiting _)
  | holding other error =>
    exact .inl ⟨i, ⟨h.code_eq, other, error, h.phase.trans hjudge⟩, fun j hj => h.eq_of_holds hj⟩
  | returned result =>
    have hgone := h.isGone hjudge
    exact .inr ⟨(hgone [] nofun).2, hgone⟩

/-- A call for the code that is not idle owns it. -/
theorem isOwned_of_not_isIdle (h : s.IsKept calls code grant ∨ ∃ i, s.IsOwned calls code grant i)
    (hi : (calls i).code = code) (hidle : ¬ (calls i).IsIdle grant (s.phase i)) :
    s.IsOwned calls code grant i := by
  rcases h with h | ⟨j, h⟩
  · exact absurd (h.idle i hi) hidle
  · obtain rfl : i = j := by
      by_contra hne
      exact hidle (h.idle i hne hi)
    exact h

/-- **A code is redeemed at most once, in whatever order the calls take their steps.**  At most one
call is given the grant, and it is given the grant that was put.  At every moment the code is in the
store, or held by exactly one call, or gone for good.  It is gone for good as soon as a call has
been given the grant, or has been told that the code expired, unless the code had not expired and
the call was told so by its own check. -/
theorem redeemed_at_most_once (calls : ι → RedeemCall) (store : Store) (code : String)
    (grant : Grant) (moves : List (Move ι)) (hmoves : ∀ m ∈ moves, ¬ m.Puts code) :
    let s := (start (store.putCode code grant)).run calls moves
    (∀ i j given given', (calls i).code = code → (calls j).code = code →
      s.phase i = .returned (.ok given) → s.phase j = .returned (.ok given') → i = j) ∧
    (∀ i given, (calls i).code = code → s.phase i = .returned (.ok given) → given = grant) ∧
    ((s.store.grant? code = some grant ∧ ∀ i, ¬ s.Holds calls code i) ∨
      (s.store.grant? code = none ∧ ∃! i, s.Holds calls code i) ∨
      (s.store.grant? code = none ∧ (∀ i, ¬ s.Holds calls code i) ∧ s.IsGone calls code)) ∧
    (∀ i given, (calls i).code = code → s.phase i = .returned (.ok given) → s.IsGone calls code) ∧
    ∀ i, (calls i).code = code → s.phase i = .returned (.error .codeExpired) →
      grant.isExpiredAt (calls i).now = true ∨ (calls i).check grant ≠ .error .codeExpired →
      s.IsGone calls code := by
  intro s
  have hrun : s.IsKept calls code grant ∨ ∃ i, s.IsOwned calls code grant i :=
    kept_or_owned_run (.inl (isKept_start store)) hmoves
  -- Whoever was given the grant is the owner.
  have howner : ∀ i given, (calls i).code = code → s.phase i = .returned (.ok given) →
      s.IsOwned calls code grant i := fun i given hi hphase =>
    isOwned_of_not_isIdle hrun hi fun hidle => hidle.ne_ok given hphase
  refine ⟨fun i j given given' hi hj hphase hphase' => ?_, fun i given hi hphase => ?_, ?_,
    fun i given hi hphase => ?_, fun i hi hphase hreason => ?_⟩
  · by_contra hne
    exact ((howner j given' hj hphase').idle i hne hi).ne_ok given hphase
  · have h := howner i given hi hphase
    exact (calls i).eq_of_judge_eq_ok (h.phase.symm.trans hphase)
  · rcases hrun with h | ⟨i, h⟩
    · exact .inl ⟨h.known, h.not_holds⟩
    · rcases h.held_or_gone with hheld | hgone
      · exact .inr (.inl ⟨h.taken, hheld⟩)
      · exact .inr (.inr ⟨h.taken, hgone⟩)
  · have h := howner i given hi hphase
    exact h.isGone (h.phase.symm.trans hphase)
  · have h : s.IsOwned calls code grant i := isOwned_of_not_isIdle hrun hi fun hidle => by
      obtain ⟨hlive, hcheck⟩ := hidle.check_eq hphase
      rcases hreason with hexpired | hother
      · exact absurd (hlive.symm.trans hexpired) (by decide)
      · exact hother hcheck
    exact h.isGone (h.phase.symm.trans hphase)

end Runs

/-! ## Three calls -/

/-- A grant that is good for a second. -/
def sampleGrant : Grant := ⟨"sample-client", "http://a", "challenge", "S256", "r", "", ⟨1, 0⟩⟩

/-- Three calls for one code, of which the first fails its check, in the words for an expired
code. -/
def sampleCalls (i : Fin 3) : RedeemCall :=
  ⟨"code", ⟨0, 0⟩, fun _ => if i = 0 then .error .codeExpired else .ok ()⟩

@[simp] theorem code_sampleCalls (i : Fin 3) : (sampleCalls i).code = "code" := rfl

@[simp] theorem judge_sampleCalls_zero :
    (sampleCalls 0).judge (some sampleGrant) = .holding sampleGrant .codeExpired := rfl

@[simp] theorem judge_sampleCalls_two :
    (sampleCalls 2).judge (some sampleGrant) = .returned (.ok sampleGrant) := rfl

/-- The first call takes the code, and puts it back when the second has looked for it in vain; the
third redeems it. -/
theorem redeemed_at_most_once_of_sample :
    let s := (start ((Store.initial ⟨0, 0⟩).putCode "code" sampleGrant)).run sampleCalls
      [.step 0, .step 1, .step 0, .step 2]
    s.phase 2 = .returned (.ok sampleGrant) ∧ s.IsGone sampleCalls "code" := by
  intro s
  have hphase : s.phase 2 = .returned (.ok sampleGrant) := by
    simp [s, start, move, RedeemCall.step, Store.takeCode]
  obtain ⟨-, -, -, hgone, -⟩ := redeemed_at_most_once sampleCalls (.initial ⟨0, 0⟩) "code"
    sampleGrant [.step 0, .step 1, .step 0, .step 2] (by simp [Move.Puts])
  exact ⟨hphase, hgone 2 sampleGrant rfl hphase⟩

/-- **A check may say that the code expired.**  The first call has been told so, and the code is in
the store again. -/
theorem keeps_code_of_check :
    let s := (start ((Store.initial ⟨0, 0⟩).putCode "code" sampleGrant)).run sampleCalls
      [.step 0, .step 0]
    s.phase 0 = .returned (.error .codeExpired) ∧ s.store.grant? "code" = some sampleGrant := by
  simp [start, move, RedeemCall.step, Store.takeCode]

end Scene

end CodeGrant
