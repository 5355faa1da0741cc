import CodeGrant.Cli.Arguments
import CodeGrant.Cli.EnvironmentFile
import CodeGrant.Cli.Help
import CodeGrant.LogFilter
import CodeGrant.Server.Start

/-! # A run of the command line

A run ends by itself, with something printed, or it goes on to serve with the
settings that it was told.

Help and problems are styled.  Colors are shown only if `CLICOLOR_FORCE` asks for them
and `NO_COLOR` does not forbid them; the environment file has a say in that too. -/

namespace CodeGrant.Cli

/-- What a run comes to. -/
inductive Outcome where
  /-- It ends with a code, and prints to its output and to its error output. -/
  | exit (code : Nat) (output errors : String)
  /-- It goes on to serve, with this printed to its error output. -/
  | serve (settings : Settings) (errors : String)
  deriving DecidableEq, Repr

/-- The variable that asks for colors. -/
def colorVariable : String := "CLICOLOR_FORCE"

/-- The variable that forbids colors. -/
def noColorVariable : String := "NO_COLOR"

/-- Whether a variable is set to more than nothing. -/
def hasText (env : Environment) (name : String) : Bool := (env.value? name).getD "" != ""

/-- Whether colors are shown. -/
def showsColors (env : Environment) : Bool :=
  hasText env colorVariable && !hasText env noColorVariable

/-- What is said about the log filter.  The one in the environment is taken as it is if it is valid;
otherwise the level of the settings serves as a filter, whose faults are told. -/
def filterNotes (env : Environment) (settings : Settings) : String :=
  match Switch.logLevel.variableName? >>= fun name => env.value? name with
  | some filter => if LogFilter.isValid filter then "" else LogFilter.notes settings.logLevel
  | none => LogFilter.notes settings.logLevel

/-- What is said when there is no server. -/
def failureText (reason : String) : String := "Error: " ++ reason ++ "\n"

/-- A run that is to serve, if the server gets its port. -/
def Outcome.ofSettings (env : Environment) (settings : Settings) : Outcome :=
  let notes := filterNotes env settings
  if Server.isPrivilegedPort settings.port then
    .exit 1 "" (notes ++ failureText (Server.addressFault settings.config.address).message)
  else .serve settings notes

/-- A run that stops while the arguments are read. -/
def Outcome.ofStop (env : Environment) : Stop → Outcome
  | .help => .exit 0 ((helpText env).shown (showsColors env)) ""
  | .version => .exit 0 (versionText.shown (showsColors env)) ""
  | .problem problem => .exit 2 "" (problem.message.shown (showsColors env))

/-- A run with arguments, in an environment, perhaps beside an environment file. -/
def run (arguments : List String) (env : Environment) (file : Option String) : Outcome :=
  let env :=
    match file with
    | some text => loadFile env text
    | none => env
  match readSettings arguments env with
  | .ok settings => .ofSettings env settings
  | .error stop => .ofStop env stop

end CodeGrant.Cli
