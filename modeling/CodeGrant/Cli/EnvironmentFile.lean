import CodeGrant.Environment
import CodeGrant.Text.Alphanumeric
import CodeGrant.Text.Blank

/-! # Environment files

A file of lines `name=value` sets variables that are not set already.  A line may
start with `export`; blank lines and lines that start with `#` say nothing.

A value may be quoted in whole or in part.  Between single quotes everything stands
for itself.  Elsewhere a backslash escapes a quote, a backslash, a dollar sign, a
space or (as `n`) a line feed, and `$name` or `$` with a name in braces stands for
the value of a variable: that of the environment, or else that of an earlier line.
Behind a blank outside quotes only a comment may follow.

The first line that is none of these ends the reading; what the lines before it
said is kept. -/

namespace CodeGrant.Cli

/-- A variable that `$` refers to. -/
inductive Reference where
  /-- A name up to the first character that is no letter or digit. -/
  | bare (name : List Char)
  /-- A name up to the closing brace. -/
  | braced (name : List Char)
  deriving DecidableEq, Repr

/-- Where the reader stands in a value. -/
inductive ValuePlace where
  | plain
  | strongQuotes
  | weakQuotes
  /-- Behind a backslash, and whether weak quotes are open. -/
  | escape (quoted : Bool)
  /-- Behind a dollar sign, and whether weak quotes are open. -/
  | reference (quoted : Bool) (target : Reference)
  /-- Behind the value. -/
  | behind
  deriving DecidableEq, Repr

/-- The values that a reference can have. -/
structure Known where
  environment : Environment
  /-- What earlier lines said, the last one first. -/
  earlier : List (String × String)
  deriving DecidableEq, Repr

/-- The value of a reference, empty if there is none. -/
def Known.value (known : Known) (name : List Char) : String :=
  match known.environment.value? (String.ofList name) with
  | some value => value
  | none => (known.earlier.lookup (String.ofList name)).getD ""

/-- The place in a value outside or inside weak quotes. -/
def placeIn (quoted : Bool) : ValuePlace := if quoted then .weakQuotes else .plain

/-- The character that an escaped one stands for. -/
def escaped? (c : Char) : Option Char :=
  if c = '\\' ∨ c = '\'' ∨ c = '"' ∨ c = '$' ∨ c = ' ' then some c
  else if c = 'n' then some '\n'
  else none

/-- One character outside references, escapes and strong quotes, with the output so far. -/
def plainStep (quoted : Bool) (out : String) (c : Char) : ValuePlace × String :=
  if c = '$' then (.reference quoted (.bare []), out)
  else if c = '\\' then (.escape quoted, out)
  else if c = '"' then (placeIn (!quoted), out)
  else if quoted then (.weakQuotes, out.push c)
  else if c = '\'' then (.strongQuotes, out)
  else if c = ' ' ∨ c = '\t' then (.behind, out)
  else (.plain, out.push c)

/-- One character of a reference, with the output so far.  The character that ends a bare name
stands for itself, whatever it is, but a dollar sign starts the next reference. -/
def referenceStep (known : Known) (quoted : Bool) (out : String) (c : Char) :
    Reference → ValuePlace × String
  | .braced name =>
    if c = '\x7d' then (placeIn quoted, out ++ known.value name)
    else (.reference quoted (.braced (name ++ [c])), out)
  | .bare name =>
    if Text.isAlphanumericChar c then (.reference quoted (.bare (name ++ [c])), out)
    else if c = '\x7b' ∧ name = [] then (.reference quoted (.braced []), out)
    else
      let out := out ++ known.value name
      if c = '$' then (.reference quoted (.bare []), out) else (placeIn quoted, out.push c)

/-- The value that characters write, behind the output so far; `none` if they write none. -/
def readValue (known : Known) (place : ValuePlace) (out : String) : List Char → Option String
  | [] =>
    match place with
    | .plain | .behind | .escape false => some out
    | .reference false (.bare name) => some (out ++ known.value name)
    | _ => none
  | c :: chars =>
    match place with
    | .behind =>
      if c = ' ' ∨ c = '\t' then readValue known .behind out chars
      else if c = '#' then some out
      else none
    | .escape quoted =>
      match escaped? c with
      | some d => readValue known (placeIn quoted) (out.push d) chars
      | none => none
    | .strongQuotes =>
      if c = '\'' then readValue known .plain out chars
      else readValue known .strongQuotes (out.push c) chars
    | .reference quoted target =>
      let (place, out) := referenceStep known quoted out c target
      readValue known place out chars
    | .weakQuotes =>
      let (place, out) := plainStep true out c
      readValue known place out chars
    | .plain =>
      let (place, out) := plainStep false out c
      readValue known place out chars

/-- A character that a name may start with. -/
def startsName (c : Char) : Bool := c.isAlpha || c == '_'

/-- A character that a name may hold. -/
def inName (c : Char) : Bool := c.isAlphanum || c == '_' || c == '.'

/-- The name at the front, and what follows it and the blanks behind it. -/
def readName (chars : List Char) : Option (String × List Char) :=
  match chars with
  | [] => none
  | c :: _ =>
    if startsName c then
      some (String.ofList (chars.takeWhile inName), Text.trimStart (chars.dropWhile inName))
    else none

/-- What follows an equals sign and the blanks behind it. -/
def afterEquals : List Char → Option (List Char)
  | '=' :: chars => some (Text.trimStart chars)
  | _ => none

/-- The name that a line sets and the text of its value. -/
def readAssignment (chars : List Char) : Option (String × List Char) := do
  let (name, rest) ← readName chars
  match name == "export", afterEquals rest with
  | true, none =>
    let (name, rest) ← readName rest
    some (name, ← afterEquals rest)
  | _, value => some (name, ← value)

/-- What a line says: nothing (`some none`), a variable and its value, or nothing that can be read
(`none`). -/
def readLine (known : Known) (line : String) : Option (Option (String × String)) :=
  let chars := Text.trimStart (Text.dropEndWhile Text.isBlankChar line.toList)
  match chars with
  | [] => some none
  | '#' :: _ => some none
  | chars => do
    let (name, text) ← readAssignment chars
    match text with
    | [] => some (some (name, ""))
    | '#' :: _ => some (some (name, ""))
    | text => some (some (name, ← readValue known .plain "" text))

/-- The environment with what the lines set. -/
def loadLines (known : Known) : List String → Environment
  | [] => known.environment
  | line :: lines =>
    match readLine known line with
    | none => known.environment
    | some none => loadLines known lines
    | some (some (name, value)) =>
      loadLines ⟨known.environment.setDefault name value, (name, value) :: known.earlier⟩ lines

/-- The lines of a text. -/
def linesOf (text : String) : List String :=
  (text.toList.splitOn '\n').map String.ofList

/-- The environment with what a file sets. -/
def loadFile (env : Environment) (text : String) : Environment := loadLines ⟨env, []⟩ (linesOf text)

/-- The words of a file that may name variables. -/
def mentionedNames (text : String) : List String :=
  ((text.toList.splitBy fun a b => inName a == inName b).filter fun word => word.all inName).map
    String.ofList

example : loadFile [("A", "1")] "A=2\nexport B='q r' # t\nC=\"$A\"\nD=4"
    = [("A", "1"), ("B", "q r")] := by decide +kernel
example : loadFile [] "X=1\nY=\"<$\x7bX\x7d>\" #\n_z.1="
    = [("X", "1"), ("Y", "<1>"), ("_z.1", "")] := by decide +kernel

end CodeGrant.Cli
