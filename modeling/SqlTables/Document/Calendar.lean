/-!
# Days and times

Days of the calendar, and times of day with the offset of their clock where it is known.  Two times
with offsets are the same when they are the same instant of universal time; one without an offset
is never the same as one with.
-/

set_option autoImplicit false

namespace SqlTables.Document

/-- Whether a year has a leap day. -/
def isLeapYear (y : Nat) : Bool := (y % 4 = 0 && y % 100 ≠ 0) || y % 400 = 0

/-- The number of days of a month. -/
def daysInMonth (y m : Nat) : Nat :=
  if m = 2 then (if isLeapYear y then 29 else 28)
  else if m = 4 ∨ m = 6 ∨ m = 9 ∨ m = 11 then 30
  else 31

/-- The number of days of a year before its month of index `m`, counted from zero. -/
def daysBeforeMonth (y : Nat) : Nat → Nat
  | 0 => 0
  | m + 1 => daysBeforeMonth y m + daysInMonth y (m + 1)

/-- A day of the calendar. -/
structure Date where
  year : Nat
  month : Nat
  day : Nat
deriving DecidableEq, Repr, Inhabited

/-- The number of days from the beginning of year one to the end of a day. -/
def Date.ordinal (d : Date) : Nat :=
  let past := d.year - 1
  past * 365 + past / 4 - past / 100 + past / 400 + daysBeforeMonth d.year (d.month - 1) + d.day

/-- A day and a time, with the minutes by which it is ahead of universal time where known. -/
structure Moment where
  date : Date
  hour : Nat
  minute : Nat
  second : Nat
  microsecond : Nat
  offset : Option Int
deriving DecidableEq, Repr, Inhabited

namespace Moment

/-- The microseconds of universal time at a moment whose clock is ahead by some minutes. -/
def instant (m : Moment) (offset : Int) : Int :=
  let minutes : Int := (m.date.ordinal * 24 + m.hour) * 60 + m.minute
  ((minutes - offset) * 60 + m.second) * 1000000 + m.microsecond

/-- Whether two moments are the same. -/
def isSame (a b : Moment) : Bool :=
  match a.offset, b.offset with
  | some x, some y => a.instant x == b.instant y
  | none, none => a == b
  | _, _ => false

end Moment

end SqlTables.Document
