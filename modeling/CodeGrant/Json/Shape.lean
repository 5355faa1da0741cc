import CodeGrant.Json
import CodeGrant.Json.Skip

/-! # Reading JSON of a known shape

A reader knows the shape of the document that it expects (`Shape`), and stops at
the first thing that does not fit.  A record is an object whose members are looked
for by name, in any order, at most once each; other members are skipped, and an
optional member that is missing reads as `null`.  A record may also be written as
the list of all its members in order.

`Shape.read` gives a record as an object with exactly the members of its shape, in
the order of the shape, whatever the order in the document. -/

namespace CodeGrant.Json

/-- What a document must look like. -/
inductive Shape where
  | text
  /-- An integer of sixty-four bits with a sign, written without fraction and exponent. -/
  | int64
  /-- A value of the shape, or `null`. -/
  | optional (shape : Shape)
  | list (item : Shape)
  | record (fields : List (String × Shape))
  deriving Inhabited, Repr

/-- The integers of sixty-four bits with a sign. -/
def isInt64 (n : Int) : Bool := Int64.minValue.toInt ≤ n && n ≤ Int64.maxValue.toInt

/-- The fault of a value that starts with these bytes and is not of the shape asked for.  A word,
numeral or text is read to its end first and can turn out worse. -/
def unexpected : Bytes → Fault
  | [] => .truncated
  | b :: bytes =>
    let faultOf {α : Type} (result : Except Fault α) : Fault :=
      match result with
      | .error fault => fault
      | .ok _ => .mismatch
    if b = 0x6E then faultOf (scanWord nullRest bytes)
    else if b = 0x74 then faultOf (scanWord trueRest bytes)
    else if b = 0x66 then faultOf (scanWord falseRest bytes)
    else if b = 0x2D ∨ isDigit b then faultOf (readNumeral (b :: bytes))
    else if b = 0x22 then faultOf (readText bytes)
    else if b = 0x5B ∨ b = 0x7B then .mismatch
    else .malformed

/-- A text value at the front of bytes without leading blanks. -/
def readTextValue : Bytes → Except Fault (Json × Bytes)
  | b :: bytes =>
    if b = 0x22 then do
      let (content, bytes) ← readText bytes
      .ok (.text content, bytes)
    else .error (unexpected (b :: bytes))
  | [] => .error .truncated

/-- An integer value at the front of bytes without leading blanks. -/
def readIntValue : Bytes → Except Fault (Json × Bytes)
  | b :: bytes =>
    if b = 0x2D ∨ isDigit b then do
      let (numeral, bytes) ← readNumeral (b :: bytes)
      match numeral.integer? with
      | some n => if isInt64 n then .ok (.int n, bytes) else .error .mismatch
      | none => .error .mismatch
    else .error (unexpected (b :: bytes))
  | [] => .error .truncated

/-- The bytes of the next list item without leading blanks, or `none` and what follows the list
when its bracket closes instead. -/
def nextItem (first : Bool) (bytes : Bytes) : Except Fault (Option Bytes × Bytes) :=
  match skipBlanks bytes with
  | [] => .error .truncated
  | b :: bytes =>
    if b = 0x5D then .ok (none, bytes)
    else if first then .ok (some (b :: bytes), [])
    else if b = 0x2C then
      match skipBlanks bytes with
      | [] => .error .truncated
      | b :: bytes => if b = 0x5D then .error .malformed else .ok (some (b :: bytes), [])
    else .error .malformed

/-- The name of the next member and what follows it, or `none` and what follows the object when its
brace closes instead. -/
def nextName (first : Bool) (bytes : Bytes) : Except Fault (Option String × Bytes) :=
  let name : Bytes → Except Fault (Option String × Bytes)
    | [] => .error .truncated
    | b :: bytes =>
      if b = 0x22 then do
        let (content, bytes) ← readText bytes
        .ok (some content, bytes)
      else .error .malformed
  match skipBlanks bytes with
  | [] => .error .truncated
  | b :: bytes =>
    if b = 0x7D then .ok (none, bytes)
    else if first then name (b :: bytes)
    else if b = 0x2C then name (skipBlanks bytes)
    else .error .malformed

/-- What follows the colon. -/
def afterColon (bytes : Bytes) : Except Fault Bytes :=
  match skipBlanks bytes with
  | [] => .error .truncated
  | b :: bytes => if b = 0x3A then .ok bytes else .error .malformed

/-- What follows the bracket that closes a list to which nothing is to be added. -/
def afterList (bytes : Bytes) : Except Fault Bytes :=
  match skipBlanks bytes with
  | [] => .error .truncated
  | b :: bytes => if b = 0x5D then .ok bytes else .error .malformed

/-- The value of a member that the document leaves out. -/
def Shape.missing : Shape → Except Fault Json
  | .optional _ => .ok .null
  | _ => .error .mismatch

/-- The members of a record in the order of its fields, out of those found. -/
def collect (found : List (String × Json)) :
    List (String × Shape) → Except Fault (List (String × Json))
  | [] => .ok []
  | (name, shape) :: fields => do
    let value ←
      match found.lookup name with
      | some value => .ok value
      | none => shape.missing
    let rest ← collect found fields
    .ok ((name, value) :: rest)

mutual

/-- A value of the shape and what follows it, in at most `steps` steps. -/
def Shape.readFrom (steps : Nat) (shape : Shape) (bytes : Bytes) : Except Fault (Json × Bytes) :=
  match steps with
  | 0 => .error .truncated
  | steps + 1 =>
    let bytes := skipBlanks bytes
    match shape, bytes with
    | .text, _ => readTextValue bytes
    | .int64, _ => readIntValue bytes
    | .optional shape, b :: rest =>
      if b = 0x6E then do
        let rest ← scanWord nullRest rest
        .ok (.null, rest)
      else shape.readFrom steps bytes
    | .list item, b :: rest =>
      if b = 0x5B then readItems steps item true [] rest else .error (unexpected bytes)
    | .record fields, b :: rest =>
      if b = 0x5B then readFields steps fields true [] rest
      else if b = 0x7B then readMembers steps fields true [] rest
      else .error (unexpected bytes)
    | _, [] => .error .truncated

/-- The items of a list behind those of `done`, which stand last one first. -/
def readItems (steps : Nat) (item : Shape) (first : Bool) (done : List Json) (bytes : Bytes) :
    Except Fault (Json × Bytes) :=
  match steps with
  | 0 => .error .truncated
  | steps + 1 =>
    match nextItem first bytes with
    | .error fault => .error fault
    | .ok (none, rest) => .ok (.list done.reverse, rest)
    | .ok (some bytes, _) =>
      match item.readFrom steps bytes with
      | .error fault => .error fault
      | .ok (value, rest) => readItems steps item false (value :: done) rest

/-- The members of a record written as a list, behind those of `done`, which stand last one
first. -/
def readFields (steps : Nat) (fields : List (String × Shape)) (first : Bool)
    (done : List (String × Json)) (bytes : Bytes) : Except Fault (Json × Bytes) :=
  match steps with
  | 0 => .error .truncated
  | steps + 1 =>
    match fields with
    | [] =>
      match afterList bytes with
      | .error fault => .error fault
      | .ok rest => .ok (.object done.reverse, rest)
    | (name, shape) :: fields =>
      match nextItem first bytes with
      | .error fault => .error fault
      | .ok (none, _) => .error .mismatch
      | .ok (some bytes, _) =>
        match shape.readFrom steps bytes with
        | .error fault => .error fault
        | .ok (value, rest) => readFields steps fields false ((name, value) :: done) rest

/-- The members of a record written as an object, besides those `found` already. -/
def readMembers (steps : Nat) (fields : List (String × Shape)) (first : Bool)
    (found : List (String × Json)) (bytes : Bytes) : Except Fault (Json × Bytes) :=
  match steps with
  | 0 => .error .truncated
  | steps + 1 =>
    match nextName first bytes with
    | .error fault => .error fault
    | .ok (none, rest) =>
      match collect found fields with
      | .error fault => .error fault
      | .ok members => .ok (.object members, rest)
    | .ok (some name, bytes) =>
      match fields.lookup name with
      | some shape =>
        if (found.lookup name).isSome then .error .mismatch
        else
          match afterColon bytes with
          | .error fault => .error fault
          | .ok bytes =>
            match shape.readFrom steps bytes with
            | .error fault => .error fault
            | .ok (value, rest) => readMembers steps fields false ((name, value) :: found) rest
      | none =>
        match afterColon bytes with
        | .error fault => .error fault
        | .ok bytes =>
          match skipValue steps bytes with
          | .error fault => .error fault
          | .ok rest => readMembers steps fields false found rest

end

/-- A whole document of the shape: the value, and nothing but blanks behind it. -/
def Shape.read (shape : Shape) (bytes : Bytes) : Except Fault Json := do
  let (value, rest) ← shape.readFrom (2 * bytes.length + 8) bytes
  match skipBlanks rest with
  | [] => .ok value
  | _ :: _ => .error .malformed

end CodeGrant.Json
