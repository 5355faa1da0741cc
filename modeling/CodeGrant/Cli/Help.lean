import CodeGrant.Cli.Usage
import CodeGrant.Environment
import CodeGrant.Server

/-! # Help

The texts that the program prints about itself: how to use it, with the value that
each variable of the environment has, and its version. -/

namespace CodeGrant.Cli

open Terminal (StyledText)

/-- What the program is for. -/
def about : String := "OAuth 2.0 authorization server (PKCE + JWKS) for MCP endpoints"

/-- What stands in front of a switch: its letter, or blanks of the same width. -/
def letterColumn (switch : Switch) : StyledText :=
  match switch.letter? with
  | some letter => [⟨.body, "  "⟩, ⟨.literal, String.ofList ['-', letter]⟩, ⟨.body, ", "⟩]
  | none => [⟨.body, "      "⟩]

/-- The width of the widest switch. -/
def usageWidth : Nat := Switch.all.foldl (fun width switch => max width switch.usage.length) 0

/-- The width of what stands in front of the purpose of a switch. -/
def purposeColumn : Nat := 6 + usageWidth + 2

/-- So many blanks. -/
def blanks (count : Nat) : String := String.ofList (List.replicate count ' ')

/-- A text with its second and later lines moved to a column. -/
def hanging (column : Nat) (text : String) : String :=
  String.join <| text.toList.map fun c =>
    if c = '\n' then "\n" ++ blanks column else String.singleton c

/-- Where a value comes from when a switch is left out. -/
def sourceNotes (env : Environment) (switch : Switch) : String :=
  (match switch.variableName? with
    | some name => " [env: " ++ name ++ "=" ++ (env.value? name).getD "" ++ "]"
    | none => "") ++
  match switch.default? with
  | some value => " [default: " ++ value ++ "]"
  | none => ""

/-- The line of help about a switch. -/
def helpLine (env : Environment) (switch : Switch) : StyledText :=
  letterColumn switch ++ switch.styledUsage
    ++ [⟨.body, blanks (usageWidth + 2 - switch.usage.length)
      ++ hanging purposeColumn (switch.purpose ++ sourceNotes env switch) ++ "\n"⟩]

/-- The whole help. -/
def helpText (env : Environment) : StyledText :=
  [⟨.body, about⟩] ++ usageOf [] ++ [⟨.body, "\n\n"⟩, ⟨.heading, "Options:"⟩, ⟨.body, "\n"⟩]
    ++ Switch.all.flatMap (helpLine env)

/-- The version. -/
def versionText : StyledText := [⟨.body, programName ++ " " ++ version ++ "\n"⟩]

example : purposeColumn = 31 := by decide +kernel
example : hanging 2 "a\nb" = "a\n  b" := by decide +kernel

end CodeGrant.Cli
