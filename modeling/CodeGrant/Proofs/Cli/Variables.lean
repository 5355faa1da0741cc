import CodeGrant.Cli.Run

/-! # Settings from variables alone

Without arguments every switch is left to its variable.  Nothing waits then and no switch is
settled twice, so one variable fills one place of the draft and leaves the others open
(`State.LeavesOpen`), and all of them fill it one by one.

The settings are what the variables say, or the defaults where they are not set
(`readSettings_nil`).  Only the first two variables can be refused, and the first that is refused
ends the run with the code of a problem (`run_nil_eq_exit_iff`). -/

namespace CodeGrant.Cli

open Net (IpAddress)

variable {env : Environment} {switch : Switch}

/-- What the variable of a switch says to `read`; a problem with it is one with the switch. -/
def told {α : Type} (env : Environment) (switch : Switch) (read : String → Except String α)
    (default : α) : Except Stop α :=
  match switch.variableName? >>= fun name => env.value? name with
  | none => .ok default
  | some value =>
    match read value with
    | .ok told => .ok told
    | .error reason => .error (.problem (.badValue switch value reason))

/-- The draft with the variable of a switch. -/
def Draft.fill (env : Environment) (draft : Draft) (switch : Switch) : Except Stop Draft :=
  told env switch (fun value => draft.set value switch) draft

/-- The address that a text writes, or what is wrong with it. -/
def readHostValue (text : String) : Except String IpAddress :=
  match IpAddress.ofText? text with
  | some host => .ok host
  | none => .error Config.notAnAddress

theorem readHostValue_eq_ok_iff {text : String} {host : IpAddress} :
    readHostValue text = .ok host ↔ IpAddress.ofText? text = some host := by
  rw [readHostValue]
  cases IpAddress.ofText? text <;> simp

theorem told_eq_ok_iff {α : Type} {read : String → Except String α} {default a : α} {name : String}
    (hname : switch.variableName? = some name) : told env switch read default = .ok a ↔
      (env.value? name = none ∧ default = a) ∨
        ∃ text, env.value? name = some text ∧ read text = .ok a := by
  simp only [told, hname, Option.bind_eq_bind, Option.bind_some]
  cases env.value? name with
  | none => simp
  | some text => cases hread : read text <;> simp [hread]

theorem exists_badValue_of_told {α : Type} {read : String → Except String α} {default : α}
    {stop : Stop} (h : told env switch read default = .error stop) :
    ∃ value reason, stop = .problem (.badValue switch value reason) := by
  rw [told] at h
  split at h
  · cases h
  · split at h
    · cases h
    · exact ⟨_, _, (Except.error.inj h).symm⟩

/-! ## Filling the draft -/

/-- Nothing waits, and none of these switches has been settled. -/
structure State.LeavesOpen (state : State) (switches : List Switch) : Prop where
  idle : state.waiting = none
  unused : ∀ switch ∈ switches, switch ∉ state.used

namespace State.LeavesOpen

variable {state next : State} {switches : List Switch}

/-- A switch that is open takes its value at once. -/
theorem applyNext_eq (h : state.LeavesOpen (switch :: switches)) (value : String) :
    state.applyNext switch value =
      match state.draft.set value switch with
      | .ok draft => .ok { state with used := state.used ++ [switch], draft := draft }
      | .error reason => .error (.problem (.badValue switch value reason)) := by
  have hunused : switch ∉ state.used := h.unused switch List.mem_cons_self
  have hsettled : state.settled = .ok state := by
    rw [State.settled, State.settle, h.idle]
  simp only [State.applyNext, hsettled, bind, Except.bind, State.apply, if_neg hunused]
  cases state.draft.set value switch <;> rfl

/-- **One variable fills the draft.** -/
theorem map_readVariable (h : state.LeavesOpen (switch :: switches)) :
    (readVariable env state switch).map State.draft = state.draft.fill env switch := by
  rw [readVariable, Draft.fill, told]
  cases switch.variableName? >>= fun name => env.value? name with
  | none => rfl
  | some value =>
    simp only [if_neg (h.unused switch List.mem_cons_self), h.applyNext_eq]
    cases state.draft.set value switch <;> rfl

/-- One variable leaves the other switches open. -/
theorem of_readVariable (h : state.LeavesOpen (switch :: switches)) (hother : switch ∉ switches)
    (hnext : readVariable env state switch = .ok next) : next.LeavesOpen switches := by
  have hrest : state.LeavesOpen switches :=
    ⟨h.idle, fun other hmem => h.unused other (List.mem_cons_of_mem _ hmem)⟩
  rw [readVariable] at hnext
  cases hvalue : switch.variableName? >>= fun name => env.value? name with
  | none =>
    rw [hvalue] at hnext
    exact Except.ok.inj hnext ▸ hrest
  | some value =>
    simp only [hvalue, if_neg (h.unused switch List.mem_cons_self), h.applyNext_eq] at hnext
    split at hnext
    · rw [← Except.ok.inj hnext]
      refine ⟨h.idle, fun other hmem hused => ?_⟩
      rcases List.mem_append.mp hused with hused | hused
      · exact hrest.unused other hmem hused
      · exact hother (List.mem_singleton.mp hused ▸ hmem)
    · cases hnext

/-- **The variables fill the draft one by one.** -/
theorem map_foldlM_readVariable (h : state.LeavesOpen switches) (hnodup : switches.Nodup) :
    (switches.foldlM (readVariable env) state).map State.draft
      = switches.foldlM (Draft.fill env) state.draft := by
  induction switches generalizing state with
  | nil => rfl
  | cons switch switches ih =>
    obtain ⟨hother, hrest⟩ := List.nodup_cons.mp hnodup
    rw [List.foldlM_cons, List.foldlM_cons, ← h.map_readVariable]
    cases hnext : readVariable env state switch with
    | error stop => rfl
    | ok next => exact ih (h.of_readVariable hother hnext) hrest

end State.LeavesOpen

/-! ## The settings -/

theorem readSettings_nil_eq_map (env : Environment) :
    readSettings [] env = (Switch.all.foldlM (Draft.fill env) {}).map Draft.settings := by
  have hopen : State.LeavesOpen {} Switch.all := ⟨rfl, fun _ _ => List.not_mem_nil⟩
  have hfill : (Switch.all.foldlM (readVariable env) {}).map State.draft
      = Switch.all.foldlM (Draft.fill env) {} := hopen.map_foldlM_readVariable (by decide)
  rw [readSettings, ← hfill]
  change (Switch.all.foldlM (readVariable env) {} >>= fun state => _) = _
  cases Switch.all.foldlM (readVariable env) {} <;> rfl

/-- **What the draft leaves open is what the variable of the switch says, or the default.**  Here
`place` is the draft with what is said, and `next` is what the other switches make of it. -/
theorem map_foldlM_fill_cons {α : Type} {switches : List Switch} {read : String → Except String α}
    {default : α} {next : α → Except Stop Settings} (place : Option α → Draft)
    (hset : ∀ text, (place none).set text switch = (read text).map fun said => place (some said))
    (hrest : ∀ said, (switches.foldlM (Draft.fill env) (place said)).map Draft.settings
      = next (said.getD default)) :
    ((switch :: switches).foldlM (Draft.fill env) (place none)).map Draft.settings
      = told env switch read default >>= next := by
  rw [List.foldlM_cons, Draft.fill, told, told]
  cases switch.variableName? >>= fun name => env.value? name with
  | none => exact hrest none
  | some text =>
    simp only [hset]
    cases read text with
    | ok said => exact hrest (some said)
    | error reason => rfl

/-- The switches behind the first two take whatever their variables say. -/
theorem map_foldlM_fill_issuer (env : Environment) (host : Option IpAddress)
    (port : Option UInt16) :
    ([Switch.issuer, .logLevel, .jsonLogs, .help, .version].foldlM (Draft.fill env)
      { host, port }).map Draft.settings =
      .ok ⟨host.getD (.v4 .unspecified), port.getD Config.defaultPort, env.value? "OAUTH_ISSUER",
        (env.value? "RUST_LOG").getD "info", false⟩ := by
  simp only [List.foldlM_cons, Draft.fill, told, Switch.variableName?, Option.bind_eq_bind,
    Option.bind_some]
  cases env.value? "OAUTH_ISSUER" <;> cases env.value? "RUST_LOG" <;> rfl

/-- **Without arguments the settings are what the variables say, and else the defaults.** -/
theorem readSettings_nil (env : Environment) : readSettings [] env = (do
    let host ← told env .host readHostValue (.v4 .unspecified)
    let port ← told env .port readPortValue Config.defaultPort
    .ok ⟨host, port, env.value? "OAUTH_ISSUER", (env.value? "RUST_LOG").getD "info", false⟩) := by
  have hall : Switch.all
      = .host :: .port :: [Switch.issuer, .logLevel, .jsonLogs, .help, .version] := rfl
  rw [readSettings_nil_eq_map, hall]
  refine map_foldlM_fill_cons (fun host => { host }) (fun text => ?_) fun host =>
    map_foldlM_fill_cons (fun port => { host, port }) (fun _ => rfl)
      (map_foldlM_fill_issuer env host)
  rw [Draft.set, readHostValue]
  cases IpAddress.ofText? text <;> rfl

/-- The defaults that the help shows are the defaults that are taken. -/
theorem map_set_default (switch : Switch) {text : String} (h : switch.default? = some text) :
    (Draft.set {} text switch).map Draft.settings = .ok (Draft.settings {}) := by
  cases switch with
  | host | port | logLevel =>
    rw [← Option.some.inj h]
    rfl
  | issuer | jsonLogs | help | version => cases h

/-! ## Refusal -/

theorem exists_badValue_of_readSettings_nil {stop : Stop} (h : readSettings [] env = .error stop) :
    ∃ switch value reason, stop = .problem (.badValue switch value reason) := by
  rw [readSettings_nil] at h
  cases hhost : told env .host readHostValue (.v4 .unspecified) with
  | error stop' =>
    rw [hhost] at h
    exact ⟨_, Except.error.inj h ▸ exists_badValue_of_told hhost⟩
  | ok host =>
    cases hport : told env .port readPortValue Config.defaultPort with
    | error stop' =>
      rw [hhost, hport] at h
      exact ⟨_, Except.error.inj h ▸ exists_badValue_of_told hport⟩
    | ok port =>
      rw [hhost, hport] at h
      cases h

/-- **Variables that are refused end the run with the code of a problem, and only these do.** -/
theorem run_nil_eq_exit_iff (env : Environment) :
    (∃ errors, run [] env none = .exit 2 "" errors) ↔
      ∃ stop, readSettings [] env = .error stop := by
  rw [run]
  cases hsettings : readSettings [] env with
  | ok settings =>
    simp only [Outcome.ofSettings]
    split <;> simp
  | error stop =>
    obtain ⟨switch, value, reason, rfl⟩ := exists_badValue_of_readSettings_nil hsettings
    simp [Outcome.ofStop]

end CodeGrant.Cli
