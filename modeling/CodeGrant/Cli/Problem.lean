import CodeGrant.Cli.Usage

/-! # Problems with the command line

What can be wrong with the arguments, and how it is told: the problem, perhaps a
hint, how to use the program, and where to learn more. -/

namespace CodeGrant.Cli

open Terminal (StyledText)

/-- What is wrong with the arguments. -/
inductive Problem where
  /-- A switch lacks its value. -/
  | valueMissing (switch : Switch)
  /-- A switch occurs twice. -/
  | repeated (switch : Switch)
  /-- A value is not what the switch takes. -/
  | badValue (switch : Switch) (value reason : String)
  /-- A switch without a value has one; `behind` says that other switches were settled before. -/
  | unneededValue (switch : Switch) (value : String) (behind : Bool)
  /-- An argument means nothing; perhaps a switch was meant that is similar. -/
  | unexpected (argument : String) (similar : Option Switch) (used : List Switch)
  deriving DecidableEq, Repr

namespace Problem

/-- The problem itself. -/
def summary : Problem → StyledText
  | valueMissing switch =>
    [⟨.body, "a value is required for '"⟩, ⟨.invalid, switch.usage⟩,
      ⟨.body, "' but none was supplied"⟩]
  | repeated switch =>
    [⟨.body, "the argument '"⟩, ⟨.invalid, switch.usage⟩,
      ⟨.body, "' cannot be used multiple times"⟩]
  | badValue switch value reason =>
    [⟨.body, "invalid value '"⟩, ⟨.invalid, value⟩, ⟨.body, "' for '"⟩, ⟨.literal, switch.usage⟩,
      ⟨.body, "': " ++ reason⟩]
  | unneededValue switch value _ =>
    [⟨.body, "unexpected value '"⟩, ⟨.invalid, value⟩, ⟨.body, "' for '"⟩,
      ⟨.literal, switch.usage⟩, ⟨.body, "' found; no more were expected"⟩]
  | unexpected argument _ _ =>
    [⟨.body, "unexpected argument '"⟩, ⟨.invalid, argument⟩, ⟨.body, "' found"⟩]

/-- A hint at what may have been meant, and how to use the program. -/
def advice : Problem → StyledText
  | valueMissing _ | badValue _ _ _ => []
  | repeated _ => usageOf []
  | unneededValue switch _ behind => usageWithoutValue switch behind
  | unexpected _ none used => usageOf used
  | unexpected _ (some switch) used =>
    [⟨.body, "\n\n  "⟩, ⟨.valid, "tip:"⟩, ⟨.body, " a similar argument exists: '"⟩,
      ⟨.valid, switch.typed⟩, ⟨.body, "'"⟩] ++ usageOf used

/-- The whole text about a problem. -/
def message (problem : Problem) : StyledText :=
  [⟨.failure, "error:"⟩, ⟨.body, " "⟩] ++ problem.summary ++ problem.advice
    ++ [⟨.body, "\n\nFor more information, try '"⟩, ⟨.literal, Switch.help.typed⟩, ⟨.body, "'.\n"⟩]

end Problem

end CodeGrant.Cli
