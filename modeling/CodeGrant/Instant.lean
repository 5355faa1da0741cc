/-! # Instants

A point of time is a whole second since 1970 and a number of nanoseconds.  A leap
second is the second before it with more than a whole second of nanoseconds, so
instants are ordered by their seconds first. -/

namespace CodeGrant

/-- A point of time. -/
structure Instant where
  /-- Whole seconds since the start of 1970, rounded down. -/
  seconds : Int
  nanos : Nat
  deriving DecidableEq, Repr

namespace Instant

/-- Whether one instant comes strictly after another. -/
def isAfter (t u : Instant) : Bool :=
  u.seconds < t.seconds || (u.seconds == t.seconds && u.nanos < t.nanos)

/-- The instant a number of seconds later. -/
def addSeconds (t : Instant) (n : Int) : Instant := { t with seconds := t.seconds + n }

@[simp] theorem seconds_addSeconds (t : Instant) (n : Int) :
    (t.addSeconds n).seconds = t.seconds + n := rfl

@[simp] theorem nanos_addSeconds (t : Instant) (n : Int) : (t.addSeconds n).nanos = t.nanos := rfl

/-- Whether the instant lies in the calendar, which reaches from the year -262143 to the year
262142. -/
def inCalendar (t : Instant) : Prop :=
  -8334601228800 ≤ t.seconds ∧ t.seconds ≤ 8210266876799

instance (t : Instant) : Decidable t.inCalendar := by unfold inCalendar; infer_instance

end Instant

end CodeGrant
