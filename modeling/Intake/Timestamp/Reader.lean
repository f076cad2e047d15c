import Intake.Timestamp.Basic
import Intake.Decimal.Natural

namespace Intake

inductive TimeComponent where
  | year
  | month
  | day
  | separator
  | hour
  | minute
  | second
  | subsecond
  | offsetHour
  | offsetMinute
deriving DecidableEq, Repr

def TimeComponent.name : TimeComponent → String
  | year => "year"
  | month => "month"
  | day => "day"
  | separator => "separator"
  | hour => "hour"
  | minute => "minute"
  | second => "second"
  | subsecond => "subsecond"
  | offsetHour => "offset hour"
  | offsetMinute => "offset minute"

inductive TimestampFault where
  | wrongMark
  | unreadable (c : TimeComponent)
  | outOfRange (c : TimeComponent)
  | trailing
deriving DecidableEq, Repr

namespace TimestampFault

def text : TimestampFault → String
  | wrongMark => "a character literal was not valid"
  | unreadable c => "the '" ++ c.name ++ "' component could not be parsed"
  | outOfRange c => c.name ++ " was not in range"
  | trailing => "unexpected trailing characters; the end of input was expected"

/-- A fault is told at each of the layers that pass it on: the reading, and for a range also the
building of the value. -/
def causes (f : TimestampFault) : List String :=
  match f with
  | outOfRange _ => [f.text, f.text, f.text]
  | _ => [f.text, f.text]

end TimestampFault

namespace Timestamp

structure Written where
  year : Nat
  month : Nat
  day : Nat
  hour : Nat
  minute : Nat
  second : Nat
  nanosecond : Nat
  offset : Int

def takeDigits (acc : Nat) : (n : Nat) → List Char → Option (Nat × List Char)
  | 0, cs => some (acc, cs)
  | n + 1, c :: cs =>
    if Decimal.isDigit c then takeDigits (10 * acc + Decimal.digitValue c) n cs else none
  | _ + 1, [] => none

def component (c : TimeComponent) (n : Nat) (cs : List Char) :
    Except TimestampFault (Nat × List Char) :=
  match takeDigits 0 n cs with
  | some found => .ok found
  | none => .error (.unreadable c)

def mark (m : Char) : List Char → Except TimestampFault (List Char)
  | c :: cs => if c = m then .ok cs else .error .wrongMark
  | [] => .error .wrongMark

/-- One byte of any kind between the date and the time. A longer character leaves bytes behind
that no hour starts with. -/
def separator : List Char → Except TimestampFault (List Char)
  | c :: cs => if c.utf8Size = 1 then .ok cs else .error (.unreadable .hour)
  | [] => .error (.unreadable .separator)

/-- The nanoseconds that the digits of a fraction give; digits after the ninth are dropped. -/
def nanoseconds (ds : List Char) : Nat :=
  ((ds.take 9).foldl (fun n d => 10 * n + Decimal.digitValue d) 0) *
    Decimal.tenTo (9 - ds.length)

def fraction (cs : List Char) : Except TimestampFault (Nat × List Char) :=
  match cs with
  | '.' :: rest =>
    match rest.takeWhile Decimal.isDigit with
    | [] => .error (.unreadable .subsecond)
    | ds => .ok (nanoseconds ds, rest.dropWhile Decimal.isDigit)
  | _ => .ok (0, cs)

def offsetParts (east : Bool) (cs : List Char) : Except TimestampFault (Int × List Char) := do
  let (h, cs) ← component .offsetHour 2 cs
  if 23 < h then throw (.unreadable .offsetHour)
  let cs ← mark ':' cs
  let (m, cs) ← component .offsetMinute 2 cs
  if 59 < m then throw (.outOfRange .offsetMinute)
  let minutes : Int := (h * 60 + m : Nat)
  return (if east then minutes else -minutes, cs)

def offsetMinutes (cs : List Char) : Except TimestampFault (Int × List Char) :=
  match cs with
  | 'Z' :: rest => .ok (0, rest)
  | 'z' :: rest => .ok (0, rest)
  | '+' :: rest => offsetParts true rest
  | '-' :: rest => offsetParts false rest
  | _ => .error (.unreadable .offsetHour)

/-- The form of a timestamp. A month 00 is refused here, all other values are left to `check`. -/
def readWritten (cs : List Char) : Except TimestampFault Written := do
  let (year, cs) ← component .year 4 cs
  let cs ← mark '-' cs
  let (month, cs) ← component .month 2 cs
  if month = 0 then throw (.unreadable .month)
  let cs ← mark '-' cs
  let (day, cs) ← component .day 2 cs
  let cs ← separator cs
  let (hour, cs) ← component .hour 2 cs
  let cs ← mark ':' cs
  let (minute, cs) ← component .minute 2 cs
  let cs ← mark ':' cs
  let (second, cs) ← component .second 2 cs
  let (nanosecond, cs) ← fraction cs
  let (offset, cs) ← offsetMinutes cs
  if !cs.isEmpty then throw .trailing
  return { year, month, day, hour, minute, second, nanosecond, offset }

/-- The ranges. Second 60 stands for the last nanosecond of the second before it, and only at the
end of a month in UTC. -/
def check (w : Written) : Except TimestampFault Timestamp := do
  if 12 < w.month then throw (.outOfRange .month)
  if w.day = 0 || daysInMonth w.year w.month < w.day then throw (.outOfRange .day)
  if 23 < w.hour then throw (.outOfRange .hour)
  if 59 < w.minute then throw (.outOfRange .minute)
  if 60 < w.second then throw (.outOfRange .second)
  let leap := w.second = 60
  let t : Timestamp :=
    { date := ⟨w.year, w.month, w.day⟩
      hour := w.hour
      minute := w.minute
      second := if leap then 59 else w.second
      nanosecond := if leap then 999999999 else w.nanosecond
      offset := w.offset * 60 }
  if leap && !t.endsMonth then throw (.outOfRange .second)
  return t

def read (text : String) : Except TimestampFault Timestamp := do
  check (← readWritten text.toList)

end Timestamp

end Intake
