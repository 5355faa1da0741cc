import CodeGrant.Cli.Run
import CodeGrant.Server.Start

/-! # The program

The outer layer: it fetches the arguments, the environment and the environment
file, lets `Cli.run` decide, and prints what comes of it.  A run that is to serve
makes its key and ends there, since requests reach `Server.handle` through the
program that embeds it and not through a listener of its own. -/

namespace CodeGrant.Program

open CodeGrant

/-- The places where an environment file is looked for: here and in the folders above. -/
def filePlaces : List String :=
  (List.range 32).map fun depth => String.join (List.replicate depth "../") ++ ".env"

/-- The first environment file that can be read. -/
def findFile : List String → IO (Option String)
  | [] => pure none
  | place :: places => do
    try
      let text ← IO.FS.readFile place
      pure (some text)
    catch _ => findFile places

/-- The variables of these names that are set. -/
def fetchEnvironment : List String → IO Environment
  | [] => pure []
  | name :: names => do
    let value ← IO.getEnv name
    let rest ← fetchEnvironment names
    match value with
    | some value => pure ((name, value) :: rest)
    | none => pure rest

/-- Starts a server with these settings. -/
def serve (settings : Cli.Settings) : IO UInt32 := do
  let seed ← IO.getRandomBytes 32
  match Server.start settings.config seed.toList with
  | .error error =>
    IO.eprint (Cli.failureText error.message)
    pure 1
  | .ok server =>
    IO.eprint (Cli.failureText ("no listener for " ++ server.config.address.toText))
    pure 1

end CodeGrant.Program

open CodeGrant in
/-- Runs the command line. -/
def main (arguments : List String) : IO UInt32 := do
  let file ← Program.findFile Program.filePlaces
  let names := Cli.Switch.all.filterMap Cli.Switch.variableName?
    ++ [Cli.colorVariable, Cli.noColorVariable] ++ Cli.mentionedNames (file.getD "")
  let env ← Program.fetchEnvironment names
  match Cli.run arguments env file with
  | .exit code output errors =>
    IO.print output
    IO.eprint errors
    pure (UInt32.ofNat code)
  | .serve settings errors =>
    IO.eprint errors
    Program.serve settings
