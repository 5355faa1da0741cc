import CodeGrant.Cli.Switch

/-! # Usage

A line that says how to use the program: its name, and behind it the switches that
matter at the moment. -/

namespace CodeGrant.Cli

open Terminal (StyledText)

/-- What the program is called. -/
def programName : String := "mcp-authserver"

/-- How to use the program, with what stands behind its name. -/
def usageLine (tail : StyledText) : StyledText :=
  [⟨.body, "\n\n"⟩, ⟨.heading, "Usage:"⟩, ⟨.body, " "⟩, ⟨.literal, programName⟩] ++ tail

/-- How to use the program, with these switches if there are any. -/
def usageOf (used : List Switch) : StyledText :=
  usageLine (if used = [] then [⟨.body, " [OPTIONS]"⟩]
    else used.flatMap fun switch => ⟨.body, " "⟩ :: switch.styledUsage)

/-- How to use a switch that takes no value.  Behind other switches a choice stands for all those
that make a setting. -/
def usageWithoutValue (switch : Switch) (behind : Bool) : StyledText :=
  if behind then
    usageLine <|
      (if switch ∈ Switch.settings then [] else ⟨.body, " "⟩ :: switch.styledUsage)
        ++ [⟨.body, " " ++ Switch.choice⟩]
  else usageOf [switch]

example : (usageOf [.port, .help]).shown false = "\n\nUsage: mcp-authserver --port <PORT> --help" := by
  decide +kernel

end CodeGrant.Cli
