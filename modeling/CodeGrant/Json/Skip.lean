import CodeGrant.Json.Scan

/-! # Skipping a JSON value

A member that nobody asked for is skipped: its value is followed to its end,
however deep it nests, with the open lists and objects on a stack (`Frame`). -/

namespace CodeGrant.Json

/-- An open list or object. -/
inductive Frame where
  | list
  | object
  deriving DecidableEq, Repr

/-- The byte that closes a list or an object. -/
def Frame.closing : Frame → UInt8
  | list => 0x5D
  | object => 0x7D

/-- Where the reader stands. -/
inductive Place where
  /-- A value comes next. -/
  | value
  /-- The innermost list or object has just been opened. -/
  | opened
  /-- A value has just ended. -/
  | ended
  deriving DecidableEq, Repr

/-- What follows the name of a member and its colon. -/
def skipName (bytes : Bytes) : Except Fault Bytes :=
  match skipBlanks bytes with
  | [] => .error .truncated
  | b :: bytes =>
    if b = 0x22 then do
      let bytes ← skipText bytes
      match skipBlanks bytes with
      | [] => .error .truncated
      | b :: bytes => if b = 0x3A then .ok bytes else .error .malformed
    else .error .malformed

/-- What stands before the next item of the innermost frame: in an object, its name. -/
def skipToItem (frame : Frame) (bytes : Bytes) : Except Fault Bytes :=
  match frame with
  | .list => .ok bytes
  | .object => skipName bytes

/-- What follows the value that the reader is in; the open frames are listed innermost first, and
no more than the given number of steps is taken. -/
def skipFrom : Nat → Place → List Frame → Bytes → Except Fault Bytes
  | 0, _, _, _ => .error .truncated
  | _ + 1, .ended, [], bytes => .ok bytes
  | steps + 1, .ended, frame :: frames, bytes =>
    match skipBlanks bytes with
    | [] => .error .truncated
    | b :: bytes =>
      if b = frame.closing then skipFrom steps .ended frames bytes
      else if b = 0x2C then
        match skipToItem frame bytes with
        | .error fault => .error fault
        | .ok bytes => skipFrom steps .value (frame :: frames) bytes
      else .error .malformed
  | steps + 1, .opened, frames, bytes =>
    match frames, skipBlanks bytes with
    | _, [] => .error .truncated
    | [], _ :: _ => .error .malformed
    | frame :: frames, b :: bytes =>
      if b = frame.closing then skipFrom steps .ended frames bytes
      else
        match skipToItem frame (b :: bytes) with
        | .error fault => .error fault
        | .ok bytes => skipFrom steps .value (frame :: frames) bytes
  | steps + 1, .value, frames, bytes =>
    match skipBlanks bytes with
    | [] => .error .truncated
    | b :: bytes =>
      if b = 0x5B then skipFrom steps .opened (.list :: frames) bytes
      else if b = 0x7B then skipFrom steps .opened (.object :: frames) bytes
      else
        let rest :=
          if b = 0x6E then scanWord nullRest bytes
          else if b = 0x74 then scanWord trueRest bytes
          else if b = 0x66 then scanWord falseRest bytes
          else if b = 0x2D ∨ isDigit b then skipNumeral (b :: bytes)
          else if b = 0x22 then skipText bytes
          else .error .malformed
        match rest with
        | .error fault => .error fault
        | .ok bytes => skipFrom steps .ended frames bytes

/-- Where nothing is open, the value has been skipped. -/
theorem skipFrom_ended_nil (steps : Nat) (bytes : Bytes) :
    skipFrom (steps + 1) .ended [] bytes = .ok bytes := by
  rw [skipFrom]

/-- What follows the value at the front; enough steps are twice the bytes there are and one. -/
def skipValue (steps : Nat) (bytes : Bytes) : Except Fault Bytes := skipFrom steps .value [] bytes

end CodeGrant.Json
