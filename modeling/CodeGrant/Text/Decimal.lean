/-! # Decimal integers in text

An integer is written with the fewest digits (`Decimal.write`).  It is read digit
by digit and must lie between two bounds at every step, so a text that leaves the
bounds is refused for that even when something other than a digit follows
(`Decimal.read`).  A plus sign may stand in front, and a minus sign where the
bounds admit negative numbers. -/

namespace CodeGrant.Decimal

/-- An integer in decimal. -/
def write (n : Int) : String := (if n < 0 then "-" else "") ++ Nat.repr n.natAbs

/-- Why a text is not an integer between the bounds. -/
inductive Fault where
  | empty
  | invalidDigit
  | tooLarge
  | tooSmall
  deriving DecidableEq, Repr

/-- The text of a fault. -/
def Fault.message : Fault → String
  | empty => "cannot parse integer from empty string"
  | invalidDigit => "invalid digit found in string"
  | tooLarge => "number too large to fit in target type"
  | tooSmall => "number too small to fit in target type"

/-- The value of a decimal digit. -/
def digitValue? (c : Char) : Option Nat :=
  if '0' ≤ c ∧ c ≤ '9' then some (c.toNat - 0x30) else none

/-- The digits behind a number that is not above `greatest`. -/
def gatherUp (greatest : Int) (n : Int) : List Char → Except Fault Int
  | [] => .ok n
  | c :: chars =>
    match digitValue? c with
    | none => .error .invalidDigit
    | some d => if greatest < n * 10 + d then .error .tooLarge else gatherUp greatest (n * 10 + d) chars

/-- The digits behind a negative number that is not below `least`. -/
def gatherDown (least : Int) (n : Int) : List Char → Except Fault Int
  | [] => .ok n
  | c :: chars =>
    match digitValue? c with
    | none => .error .invalidDigit
    | some d => if n * 10 - d < least then .error .tooSmall else gatherDown least (n * 10 - d) chars

/-- The integer that a text writes, between the two bounds; `least` is not above zero. -/
def read (least greatest : Int) (text : String) : Except Fault Int :=
  match text.toList with
  | [] => .error .empty
  | ['+'] | ['-'] => .error .invalidDigit
  | '+' :: chars => gatherUp greatest 0 chars
  | '-' :: chars => if least < 0 then gatherDown least 0 chars else .error .invalidDigit
  | chars => gatherUp greatest 0 chars

example : write (-12) = "-12" ∧ write 0 = "0" := by decide
example : read 0 65535 "+80" = .ok 80 := rfl
example : read 0 65535 "65536x" = .error .tooLarge := rfl
example : read 0 65535 "6553x" = .error .invalidDigit := rfl
example : read (-9) 9 "-10" = .error .tooSmall := rfl

end CodeGrant.Decimal
