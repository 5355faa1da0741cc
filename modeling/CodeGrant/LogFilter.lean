import CodeGrant.Text.Alphanumeric
import CodeGrant.Text.Blank
import CodeGrant.Text.Decimal

/-! # Log filters

A log filter says what is written to the log.  It is a list of directives between
commas, and empty ones say nothing.  A directive is a level; or it is the name of a
target, a span in brackets, or both, with a level behind an equals sign if not
everything is meant.  Behind the name of a span its fields may stand in braces.

A filter with a directive that cannot be read is not valid.  Who takes it all the same
leaves that directive out, and says so (`notes`). -/

namespace CodeGrant.LogFilter

/-- Why a directive cannot be read. -/
inductive Fault where
  /-- It is no list of names and signs of the right form. -/
  | form
  /-- What stands for its level is none. -/
  | level
  deriving DecidableEq, Repr

/-- The text of a fault. -/
def Fault.message : Fault → String
  | form => "invalid filter directive"
  | level => "error parsing level filter: expected one of \"off\", \"error\", \"warn\", \"info\", "
    ++ "\"debug\", \"trace\", or a number 0-5"

/-- The names of the levels. -/
def levelNames : List String := ["off", "error", "warn", "info", "debug", "trace"]

/-- Whether a text is a level: a name in letters of either case, the number of a level, or nothing,
which means everything. -/
def isLevel (text : String) : Bool :=
  text == "" || text.toLower ∈ levelNames || (Decimal.read 0 5 text).isOk

/-- Where the reader of a directive stands. -/
inductive Place where
  | start
  /-- In a level or the name of a target. -/
  | name
  /-- In the name of a span. -/
  | span
  /-- In the fields of a span, and whether nothing of them was read. -/
  | fields (empty : Bool)
  /-- Behind the fields of a span. -/
  | behindFields
  /-- Behind a span. -/
  | behindSpan
  /-- Behind the equals sign. -/
  | level
  deriving DecidableEq, Repr

/-- A character that the name of a target may start with. -/
def startsTarget (c : Char) : Bool :=
  Text.isAlphanumericChar c || c == '-' || c == ':' || c == '_'

/-- The place behind a character, if it may stand there. -/
def Place.next? (place : Place) (c : Char) : Option Place :=
  match place with
  | start => if c = '[' then some span else if startsTarget c then some name else none
  | name => some (if c = '=' then level else if c = '[' then span else name)
  | span => some (if c = ']' then behindSpan else if c = '\x7b' then fields true else span)
  | fields empty =>
    if c = '\x7d' then (if empty then none else some behindFields) else some (fields false)
  | behindFields => if c = ']' then some behindSpan else none
  | behindSpan => if c = '=' then some level else none
  | level => some level

/-- Reads up to the level.  Gives the number of bytes in front of the level, or nothing if there is
no level, from the number of bytes that have been read. -/
def readNames (place : Place) (bytes : Nat) : List Char → Except Fault (Option Nat)
  | [] => if place = .name ∨ place = .behindSpan then .ok none else .error .form
  | c :: cs =>
    match place.next? c with
    | none => .error .form
    | some .level => .ok (some (bytes + c.utf8Size))
    | some place => readNames place (bytes + c.utf8Size) cs

/-- The characters behind so many bytes. -/
def dropBytes : Nat → List Char → List Char
  | 0, cs => cs
  | _, [] => []
  | n, c :: cs => dropBytes (n - c.utf8Size) cs

/-- Why a directive cannot be read, if so.  White space around it does not count, but the level is
taken from the whole text, at the distance from its start that it would have without. -/
def fault? (directive : String) : Option Fault :=
  match readNames .start 0 (Text.trim directive).toList with
  | .error fault => some fault
  | .ok none => none
  | .ok (some bytes) =>
    if isLevel (String.ofList (dropBytes bytes directive.toList)) then none else some .level

/-- The directives of a filter. -/
def directives (filter : String) : List String :=
  ((filter.toList.splitOn ',').filter (· != [])).map String.ofList

/-- Whether every directive of a filter can be read. -/
def isValid (filter : String) : Bool := (directives filter).all fun d => (fault? d).isNone

/-- What is said about a directive that is left out. -/
def note? (directive : String) : Option String :=
  (fault? directive).map fun fault => "ignoring `" ++ directive ++ "`: " ++ fault.message ++ "\n"

/-- What is said about the directives of a filter that are left out. -/
def notes (filter : String) : String := String.join ((directives filter).filterMap note?)

/-- Nothing is left out of a valid filter. -/
theorem notes_of_isValid {filter : String} (h : isValid filter = true) : notes filter = "" := by
  have : (directives filter).filterMap note? = [] := by
    rw [List.filterMap_eq_nil_iff]
    intro d hd
    have := List.all_eq_true.1 h d hd
    simp only [Option.isNone_iff_eq_none] at this
    simp [note?, this]
  simp [notes, this]

example : fault? "OFF" = none ∧ fault? "a::b[c\x7bd=1\x7d]=+5" = none := by decide +kernel
example : fault? "a=b" = some .level ∧ fault? "[a\x7b\x7d]" = some .form := by decide +kernel

end CodeGrant.LogFilter
