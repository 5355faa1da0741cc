/-! # Request targets

What a request asks for is a path and perhaps a query.  A target is written as a
path (`/path?query`), as a whole URL (`http://host/path?query`), as `*`, or as a
bare host, which has no path.  A fragment behind `#` does not belong to the
target. -/

namespace CodeGrant.Http

/-- What a request asks for. -/
structure Target where
  path : String
  query : Option String
  deriving DecidableEq, Repr

namespace Target

/-- What stands before the first `c`, and what stands after it if there is one. -/
def cutAt (c : Char) (chars : List Char) : List Char × Option (List Char) :=
  match chars.dropWhile (· != c) with
  | [] => (chars.takeWhile (· != c), none)
  | _ :: rest => (chars.takeWhile (· != c), some rest)

/-- A path and perhaps a query, and perhaps a fragment. -/
def ofPathChars (chars : List Char) : Target :=
  let (path, query) := cutAt '?' (cutAt '#' chars).1
  ⟨String.ofList path, query.map String.ofList⟩

/-- What stands after the first `://`, if there is one. -/
def afterScheme? : List Char → Option (List Char)
  | ':' :: '/' :: '/' :: rest => some rest
  | _ :: rest => afterScheme? rest
  | [] => none

/-- The characters that end the host of a URL. -/
def endsHost (c : Char) : Bool := c == '/' || c == '?' || c == '#'

/-- The target that a text writes. -/
def ofText (text : String) : Target :=
  match text.toList with
  | '/' :: chars => ofPathChars ('/' :: chars)
  | ['*'] => ⟨"*", none⟩
  | chars =>
    match afterScheme? chars with
    | none => ⟨"", none⟩
    | some rest =>
      match rest.dropWhile (fun c => !endsHost c) with
      | '/' :: path => ofPathChars ('/' :: path)
      | path => ofPathChars ('/' :: path)

example : ofText "/a?b=c?d#e" = ⟨"/a", some "b=c?d"⟩ := by decide +kernel
example : ofText "http://host?x#y" = ⟨"/", some "x"⟩ ∧ ofText "http://h/p" = ⟨"/p", none⟩ := by
  decide +kernel
example : ofText "host:80" = ⟨"", none⟩ ∧ ofText "*" = ⟨"*", none⟩ := by decide +kernel

end Target

end CodeGrant.Http
