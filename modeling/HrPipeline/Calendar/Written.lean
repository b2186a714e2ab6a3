import HrPipeline.Calendar.Instant
import HrPipeline.Text.Digits

/-!
# Written dates and times

The written form of a date is year, month and day with hyphens; that of an instant adds the time
of day in universal time. Years outside 0 to 9999 carry a sign, a leap second is written `60`,
and the fraction takes the fewest of 0, 3, 6 or 9 digits that lose nothing.
-/

namespace HrPipeline.Calendar

open HrPipeline.Text

/-- A year: four digits, or a sign and at least four digits. -/
def writtenYear (year : Int) : List Char :=
  if 0 ≤ year ∧ year ≤ 9999 then lastDigits 4 year.toNat
  else (if year < 0 then '-' else '+') :: padded 4 year.natAbs

/-- Year, month and day with hyphens between them. -/
def Civil.written (c : Civil) : List Char :=
  writtenYear c.year ++ '-' :: lastDigits 2 c.month ++ '-' :: lastDigits 2 c.day

/-- The written form of a date. -/
def Date.written (d : Date) : List Char := d.civil.written

/-- The fraction of a second, with its point. -/
def writtenFraction (nano : Nat) : List Char :=
  if nano = 0 then []
  else if nano % 1000000 = 0 then '.' :: lastDigits 3 (nano / 1000000)
  else if nano % 1000 = 0 then '.' :: lastDigits 6 (nano / 1000)
  else '.' :: lastDigits 9 nano

/-- The time of day, with the seconds that have passed since midnight. -/
def writtenTime (second nano : Nat) : List Char :=
  let leap := nano / nanosPerSecond
  lastDigits 2 (second / 3600) ++ ':' :: lastDigits 2 (second / 60 % 60)
    ++ ':' :: lastDigits 2 (second % 60 + leap) ++ writtenFraction (nano % nanosPerSecond)

/-- The written form of an instant in universal time. -/
def Instant.written (t : Instant) : List Char :=
  t.date.written ++ 'T' :: writtenTime (t.second % 86400).toNat t.nano ++ ['Z']

/-- The written form of a date as a text. -/
def Date.text (d : Date) : String := String.ofList d.written

/-- The written form of an instant as a text. -/
def Instant.text (t : Instant) : String := String.ofList t.written

end HrPipeline.Calendar
