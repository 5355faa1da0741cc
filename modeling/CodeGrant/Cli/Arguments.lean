import CodeGrant.Cli.Problem
import CodeGrant.Config.Environment
import CodeGrant.Text.Similarity

/-! # Reading the command line

Arguments are read from left to right.  A switch waits for its value (`State.waiting`),
and what it says is settled only when the next switch comes or the arguments end; so
of two problems the one further left is told, except that an argument that means
nothing is told before a problem with the switch that waits.

Switches that are left out take their values from the environment, and then their
defaults. -/

namespace CodeGrant.Cli

/-- What the arguments and the environment say, as far as they have been read. -/
structure Draft where
  host : Option Net.IpAddress := none
  port : Option UInt16 := none
  issuer : Option String := none
  logLevel : Option String := none
  jsonLogs : Bool := false
  deriving DecidableEq, Repr

/-- The port that a text writes, or what is wrong with it.  Any integer of sixty-four bits is read
first. -/
def readPortValue (text : String) : Except String UInt16 :=
  match Decimal.read Int64.minValue.toInt Int64.maxValue.toInt text with
  | .error fault => .error fault.message
  | .ok n =>
    if 0 ≤ n ∧ n ≤ 65535 then .ok (UInt16.ofNat n.toNat)
    else .error (Decimal.write n ++ " is not in 0..=65535")

/-- The draft with the value of one more switch, or what is wrong with the value. -/
def Draft.set (draft : Draft) (value : String) : Switch → Except String Draft
  | .host =>
    match Net.IpAddress.ofText? value with
    | some host => .ok { draft with host := some host }
    | none => .error Config.notAnAddress
  | .port => (readPortValue value).map fun port => { draft with port := some port }
  | .issuer => .ok { draft with issuer := some value }
  | .logLevel => .ok { draft with logLevel := some value }
  | .jsonLogs => .ok { draft with jsonLogs := true }
  | .help | .version => .ok draft

/-- A switch that waits, and its value if that has come. -/
structure Waiting where
  switch : Switch
  value : Option String
  deriving DecidableEq, Repr

/-- How far the arguments have been read. -/
structure State where
  /-- The switches that have been settled, in order. -/
  used : List Switch := []
  draft : Draft := {}
  waiting : Option Waiting := none
  deriving DecidableEq, Repr

/-- Why reading stops before the end. -/
inductive Stop where
  | help
  | version
  | problem (problem : Problem)
  deriving DecidableEq, Repr

namespace State

/-- Settles a switch with a value. -/
def apply (state : State) (switch : Switch) (value : String) : State × Option Problem :=
  if switch ∈ state.used then
    ({ state with used := state.used.erase switch }, some (.repeated switch))
  else
    let state := { state with used := state.used ++ [switch] }
    match state.draft.set value switch with
    | .ok draft => ({ state with draft := draft }, none)
    | .error reason => (state, some (.badValue switch value reason))

/-- Settles the switch that waits. -/
def settle (state : State) : State × Option Problem :=
  match state.waiting with
  | none => (state, none)
  | some ⟨switch, none⟩ => ({ state with waiting := none }, some (.valueMissing switch))
  | some ⟨switch, some value⟩ => { state with waiting := none }.apply switch value

/-- Settles the switch that waits, or stops at the problem with it. -/
def settled (state : State) : Except Stop State :=
  match state.settle with
  | (state, none) => .ok state
  | (_, some problem) => .error (.problem problem)

/-- Settles a switch with a value behind the one that waits. -/
def applyNext (state : State) (switch : Switch) (value : String) : Except Stop State := do
  let state ← state.settled
  match state.apply switch value with
  | (state, none) => .ok state
  | (_, some problem) => .error (.problem problem)

end State

/-- The list with `x` at its end, unless it is there already. -/
def withUsed (used : List Switch) (x : Switch) : List Switch :=
  if x ∈ used then used else used ++ [x]

/-- The problem with an unknown name behind two dashes. -/
def unknownName (state : State) (name : String) : Problem :=
  let used := state.settle.1.used
  match Text.mostSimilar? Switch.name name Switch.all with
  | some similar => .unexpected ("--" ++ name) (some similar) (withUsed used similar)
  | none => .unexpected ("--" ++ name) none used

/-- Reads a switch with two dashes, and its value if one is attached. -/
def readNamed (state : State) (name : String) (attached : Option String) : Except Stop State :=
  match Switch.ofName? name with
  | none => .error (.problem (unknownName state name))
  | some switch =>
    match switch.valueName?, attached with
    | some _, some value => state.applyNext switch value
    | some _, none => do
      let state ← state.settled
      .ok { state with waiting := some ⟨switch, none⟩ }
    | none, some value =>
      .error (.problem (.unneededValue switch value (state.used != [])))
    | none, none =>
      match switch with
      | .help => do
        let _ ← state.settled
        .error .help
      | .version => do
        let _ ← state.settled
        .error .version
      | _ => state.applyNext switch "true"

/-- Reads a letter behind a single dash; every such letter stops the reading. -/
def readLetter (state : State) (letter : Char) : Except Stop State :=
  match Switch.ofLetter? letter with
  | some switch => readNamed state switch.name none
  | none => .error (.problem (.unexpected (String.ofList ['-', letter]) none []))

/-- Reads an argument that is no switch: the value of the switch that waits for one. -/
def readPlain (state : State) (argument : String) : Except Stop State :=
  match state.waiting with
  | some ⟨switch, none⟩ => .ok { state with waiting := some ⟨switch, some argument⟩ }
  | _ => .error (.problem (.unexpected argument none []))

/-- A name and the value attached to it by an equals sign. -/
def splitAttached (chars : List Char) : String × Option String :=
  match chars.dropWhile (· != '=') with
  | [] => (String.ofList chars, none)
  | _ :: value => (String.ofList (chars.takeWhile (· != '=')), some (String.ofList value))

/-- Reads the arguments.  Behind two dashes alone nothing is a switch or a value. -/
def readArguments (state : State) : List String → Except Stop State
  | [] => state.settled
  | argument :: rest =>
    match argument.toList with
    | ['-', '-'] =>
      match rest with
      | [] => state.settled
      | next :: _ => .error (.problem (.unexpected next none []))
    | '-' :: '-' :: chars => do
      let (name, attached) := splitAttached chars
      readArguments (← readNamed state name attached) rest
    | '-' :: letter :: _ => do
      readArguments (← readLetter state letter) rest
    | _ => do
      readArguments (← readPlain state argument) rest

/-- Reads the variable of a switch that was left out. -/
def readVariable (env : Environment) (state : State) (switch : Switch) : Except Stop State :=
  match switch.variableName? >>= fun name => env.value? name with
  | some value => if switch ∈ state.used then .ok state else state.applyNext switch value
  | none => .ok state

/-- What a run of the server is told. -/
structure Settings where
  host : Net.IpAddress
  port : UInt16
  issuer : Option String
  logLevel : String
  jsonLogs : Bool
  deriving DecidableEq, Repr

/-- The settings of a draft, with the defaults for what it leaves open. -/
def Draft.settings (draft : Draft) : Settings where
  host := draft.host.getD (.v4 .unspecified)
  port := draft.port.getD Config.defaultPort
  issuer := draft.issuer
  logLevel := draft.logLevel.getD "info"
  jsonLogs := draft.jsonLogs

/-- The configuration of a server with these settings. -/
def Settings.config (settings : Settings) : Config :=
  .new (.of settings.port settings.host) settings.issuer

/-- The settings that the arguments and the environment ask for. -/
def readSettings (arguments : List String) (env : Environment) : Except Stop Settings := do
  let state ← readArguments {} arguments
  let state ← Switch.all.foldlM (readVariable env) state
  .ok state.draft.settings

end CodeGrant.Cli
