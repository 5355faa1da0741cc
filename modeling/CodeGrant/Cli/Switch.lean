import CodeGrant.Terminal.Styled

/-! # Switches

The switches of the command line.  Most of them make a setting, and of these most take
a value, which may also come from a variable of the environment; the others ask for
something to be printed. -/

namespace CodeGrant.Cli

/-- A switch of the command line. -/
inductive Switch where
  | host
  | port
  | issuer
  | logLevel
  | jsonLogs
  | help
  | version
  deriving DecidableEq, Repr

namespace Switch

/-- The name of a switch behind its two dashes. -/
def name : Switch → String
  | host => "host"
  | port => "port"
  | issuer => "issuer"
  | logLevel => "log-level"
  | jsonLogs => "json-logs"
  | help => "help"
  | version => "version"

/-- What the value of a switch is called, if it takes one. -/
def valueName? : Switch → Option String
  | host => some "HOST"
  | port => some "PORT"
  | issuer => some "ISSUER"
  | logLevel => some "LOG_LEVEL"
  | jsonLogs | help | version => none

/-- The variable that gives a value to a switch that is left out. -/
def variableName? : Switch → Option String
  | host => some "HOST"
  | port => some "PORT"
  | issuer => some "OAUTH_ISSUER"
  | logLevel => some "RUST_LOG"
  | jsonLogs | help | version => none

/-- The value of a switch that is left out, where it is not just nothing. -/
def default? : Switch → Option String
  | host => some "0.0.0.0"
  | port => some "9000"
  | logLevel => some "info"
  | issuer | jsonLogs | help | version => none

/-- The letter that stands for a switch behind a single dash. -/
def letter? : Switch → Option Char
  | help => some 'h'
  | version => some 'V'
  | host | port | issuer | logLevel | jsonLogs => none

/-- What a switch is for. -/
def purpose : Switch → String
  | host => "Address to bind"
  | port => "HTTP server port"
  | issuer => "Issuer base URL advertised in metadata and the `iss` claim (defaults to http://localhost:<port>)"
  | logLevel => "Log level (trace, debug, info, warn, error)"
  | jsonLogs => "Output logs as JSON"
  | help => "Print help"
  | version => "Print version"

/-- The switches that make a setting. -/
def settings : List Switch := [host, port, issuer, logLevel, jsonLogs]

/-- All switches, in the order in which they are listed. -/
def all : List Switch := settings ++ [help, version]

/-- A switch as it is typed, behind two dashes. -/
def typed (switch : Switch) : String := "--" ++ switch.name

/-- What is to be filled in behind a switch. -/
def blankValue (switch : Switch) : String :=
  match switch.valueName? with
  | some value => " <" ++ value ++ ">"
  | none => ""

/-- A switch as it is written, with the name of its value. -/
def usage (switch : Switch) : String := switch.typed ++ switch.blankValue

/-- A switch as it is written, with what is typed set off from the name of its value. -/
def styledUsage (switch : Switch) : Terminal.StyledText :=
  [⟨.literal, switch.typed⟩, ⟨.body, switch.blankValue⟩]

/-- The choice between the switches that make a setting. -/
def choice : String := "<" ++ "|".intercalate (settings.map usage) ++ ">"

/-- The switch of a name. -/
def ofName? (name : String) : Option Switch := all.find? fun switch => switch.name == name

/-- The switch of a letter. -/
def ofLetter? (letter : Char) : Option Switch := all.find? fun switch => switch.letter? == some letter

example : usage logLevel = "--log-level <LOG_LEVEL>" ∧ usage help = "--help" := by decide +kernel

end Switch

end CodeGrant.Cli
