import Intake.Timestamp.Calendar

namespace Intake

/-- A time of day; the offset is in seconds, east of UTC positive. -/
structure Timestamp where
  date : Date
  hour : Nat
  minute : Nat
  second : Nat
  nanosecond : Nat
  offset : Int
deriving DecidableEq, Repr

namespace Timestamp

def unixSeconds (t : Timestamp) : Int :=
  t.date.dayNumber * 86400 + (t.hour * 3600 + t.minute * 60 + t.second : Nat) - t.offset

def instant (t : Timestamp) : Int := t.unixSeconds * 1000000000 + t.nanosecond

def sameInstant (a b : Timestamp) : Bool := a.instant == b.instant

/-- Seconds since local midnight, as a clock at UTC shows them: below zero or above a day when the
date there is another one. -/
def utcSecondOfDay (t : Timestamp) : Int :=
  (t.hour * 3600 + t.minute * 60 + t.second : Nat) - t.offset

/-- The last nanosecond before the end of a month in UTC, where leap seconds are inserted. -/
def endsMonth (t : Timestamp) : Bool :=
  let s := t.utcSecondOfDay
  t.nanosecond == 999999999 &&
    ((s == 86399 && t.date.isMonthEnd) ||
      (s == -1 && t.date.previous.isMonthEnd) ||
      (s == 2 * 86400 - 1 && t.date.next.isMonthEnd))

end Timestamp

end Intake
