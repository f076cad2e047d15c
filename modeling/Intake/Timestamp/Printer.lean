import Intake.Timestamp.Basic
import Intake.Decimal.Natural

namespace Intake.Timestamp

inductive Unwritable where
  | year
  | offsetHour
  | offsetSecond
deriving DecidableEq, Repr

def Unwritable.text : Unwritable → String
  | year => "The year component cannot be formatted into the requested format."
  | offsetHour => "The offset_hour component cannot be formatted into the requested format."
  | offsetSecond => "The offset_second component cannot be formatted into the requested format."

def fractionText (nanosecond : Nat) : List Char :=
  if nanosecond = 0 then []
  else '.' :: ((Decimal.padded 9 nanosecond).reverse.dropWhile (· == '0')).reverse

def offsetText (offset : Int) : List Char :=
  if offset = 0 then ['Z']
  else
    let minutes := offset.natAbs / 60
    (if offset < 0 then '-' else '+') :: Decimal.padded 2 (minutes / 60) ++
      ':' :: Decimal.padded 2 (minutes % 60)

def written (t : Timestamp) : List Char :=
  Decimal.padded 4 t.date.year.toNat ++ '-' :: Decimal.padded 2 t.date.month ++
    '-' :: Decimal.padded 2 t.date.day ++ 'T' :: Decimal.padded 2 t.hour ++
    ':' :: Decimal.padded 2 t.minute ++ ':' :: Decimal.padded 2 t.second ++
    fractionText t.nanosecond ++ offsetText t.offset

def write (t : Timestamp) : Except Unwritable String :=
  if t.date.year < 0 || 9999 < t.date.year then .error .year
  else if 24 * 3600 ≤ t.offset.natAbs then .error .offsetHour
  else if t.offset.natAbs % 60 ≠ 0 then .error .offsetSecond
  else .ok (String.ofList t.written)

end Intake.Timestamp
