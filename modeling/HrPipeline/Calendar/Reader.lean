import HrPipeline.Calendar.Instant
import HrPipeline.Text.Blank
import HrPipeline.Text.Digits
import HrPipeline.Text.Utf8

/-!
# Reading dates and times

A lenient reader of RFC 3339 date-times and of dates. Blanks may stand before every number, before
the marks between numbers, before the zone and at the end. Each number is checked as soon as it is
read; whether the date exists and whether the zone is shorter than a day is checked at the end.
-/

namespace HrPipeline.Calendar

open HrPipeline.Text

/-- Why a text is no date or time. -/
inductive ReadError where
  /-- The text ends where more is needed. -/
  | premature
  /-- Another character is needed here. -/
  | invalid
  /-- A number is too small or too large. -/
  | outOfRange
  /-- Something follows the value. -/
  | trailing
  /-- In universal time the instant lies outside the supported years. -/
  | impossible
deriving DecidableEq

/-- The wording of a reading error. -/
def ReadError.message : ReadError → String
  | .premature => "premature end of input"
  | .invalid => "input contains invalid characters"
  | .outOfRange => "input is out of range"
  | .trailing => "trailing input"
  | .impossible => "no possible date and time matching input"

/-- The largest number that is read at all. -/
def largestNumber : Nat := Nat.pow 2 63 - 1

/-- A number of at least one and, where a limit is given, at most `most` digits. -/
def number (most : Option Nat) (cs : List Char) : Except ReadError (Nat × List Char) :=
  let window := match most with
    | none => cs
    | some k => cs.take k
  let digits := window.takeWhile Char.isDigit
  if cs.isEmpty then .error .premature
  else if digits.isEmpty then .error .invalid
  else
    let value := ofDigits (digits.map fun c => c.toNat - 48)
    if largestNumber < value then .error .outOfRange else .ok (value, cs.drop digits.length)

/-- A number of one or two digits within bounds, after any blanks. -/
def field (least most : Nat) (cs : List Char) : Except ReadError (Nat × List Char) := do
  let (n, rest) ← number (some 2) (skipBlanks cs)
  if least ≤ n ∧ n ≤ most then .ok (n, rest) else .error .outOfRange

/-- A mark between two numbers, after any blanks. -/
def mark (c : Char) (cs : List Char) : Except ReadError (List Char) :=
  match skipBlanks cs with
  | [] => .error .premature
  | d :: rest => if d = c then .ok rest else .error .invalid

/-- A year: any number of digits after a sign, up to four without one. -/
def scanYear (cs : List Char) : Except ReadError (Int × List Char) := do
  let (year, rest) ← match skipBlanks cs with
    | '-' :: rest => (number none rest).map fun r => (-(r.1 : Int), r.2)
    | '+' :: rest => (number none rest).map fun r => ((r.1 : Int), r.2)
    | cs => (number (some 4) cs).map fun r => ((r.1 : Int), r.2)
  if -0x80000000 ≤ year ∧ year < 0x80000000 then .ok (year, rest) else .error .outOfRange

/-- Year, month and day. -/
def scanCivil (cs : List Char) : Except ReadError (Civil × List Char) := do
  let (year, cs) ← scanYear cs
  let cs ← mark '-' cs
  let (month, cs) ← field 1 12 cs
  let cs ← mark '-' cs
  let (day, cs) ← field 1 31 cs
  .ok (⟨year, month, day⟩, cs)

/-- The fraction after the seconds in nanoseconds; digits after the ninth are dropped. -/
def scanFraction : List Char → Except ReadError (Nat × List Char)
  | '.' :: cs => do
    let (n, rest) ← number (some 9) cs
    .ok (n * Nat.pow 10 (9 - (cs.length - rest.length)), rest.dropWhile Char.isDigit)
  | cs => .ok (0, cs)

/-- A time of day as seconds since midnight and nanoseconds; second 60 is the leap second after
second 59. -/
def scanTime (cs : List Char) : Except ReadError ((Nat × Nat) × List Char) := do
  let (hour, cs) ← field 0 23 cs
  let cs ← mark ':' cs
  let (minute, cs) ← field 0 59 cs
  let cs ← mark ':' cs
  let (second, cs) ← field 0 60 cs
  let (nano, cs) ← scanFraction cs
  let minutes := hour * 3600 + minute * 60
  if second = 60 then .ok ((minutes + 59, nano + nanosPerSecond), cs)
  else .ok ((minutes + second, nano), cs)

/-- Two digits of a zone. Only a text of fewer than two bytes counts as ended. -/
def zoneDigits (cs : List Char) : Except ReadError ((Nat × Nat) × List Char) :=
  if byteLength cs < 2 then .error .premature
  else match cs with
    | a :: b :: rest =>
      match digitValue? a.toNat, digitValue? b.toNat with
      | some x, some y => .ok ((x, y), rest)
      | _, _ => .error .invalid
    | _ => .error .invalid

/-- Whether a character may separate the hours of a zone from its minutes. -/
def isZoneSeparator (c : Char) : Bool := c = ':' || isBlank c

/-- The hours and minutes of a zone after its sign, in seconds. -/
def scanZoneLength (cs : List Char) : Except ReadError (Nat × List Char) := do
  let ((a, b), cs) ← zoneDigits cs
  let ((c, d), cs) ← zoneDigits (cs.dropWhile isZoneSeparator)
  if 6 ≤ c then .error .outOfRange
  else .ok ((10 * a + b) * 3600 + (10 * c + d) * 60, cs)

/-- A zone as seconds east of universal time. -/
def scanZone : List Char → Except ReadError (Int × List Char)
  | [] => .error .premature
  | c :: cs =>
    if c = 'Z' ∨ c = 'z' then .ok (0, cs)
    else if ((c :: cs).take 3).map Char.toUpper = ['U', 'T', 'C'] then .ok (0, cs.drop 2)
    else if c = '+' then (scanZoneLength cs).map fun r => ((r.1 : Int), r.2)
    else if c = '-' ∨ c = '\u2212' then (scanZoneLength cs).map fun r => (-(r.1 : Int), r.2)
    else .error .invalid

/-- The sign between date and time. -/
def scanSeparator : List Char → Except ReadError (List Char)
  | [] => .error .premature
  | c :: cs => if c = 'T' ∨ c = 't' ∨ c = ' ' then .ok cs else .error .invalid

/-- The seconds between the start of the first supported year and 1970. -/
def firstSecond : Int := (Civil.toDate ⟨firstYear, 1, 1⟩).epochDay * 86400

/-- The second after the last supported year. -/
def endSecond : Int := (Civil.toDate ⟨lastYear + 1, 1, 1⟩).epochDay * 86400

/-- The instant with this local date, time of day and zone. -/
def assemble (date : Civil) (time : Nat × Nat) (zone : Int) : Except ReadError Instant :=
  if ¬ date.Exists then .error .outOfRange
  else if 86400 ≤ zone.natAbs then .error .outOfRange
  else
    let second := date.toDate.epochDay * 86400 + time.1 - zone
    if firstSecond ≤ second ∧ second < endSecond then .ok ⟨second, time.2⟩
    else .error .impossible

/-- The instant that a list of characters denotes. -/
def Instant.read (cs : List Char) : Except ReadError Instant := do
  let (date, cs) ← scanCivil cs
  let cs ← scanSeparator cs
  let (time, cs) ← scanTime cs
  let (zone, cs) ← scanZone (skipBlanks cs)
  if skipBlanks cs = [] then assemble date time zone else .error .trailing

/-- The date that a list of characters denotes. -/
def Date.read (cs : List Char) : Except ReadError Date := do
  let (date, cs) ← scanCivil cs
  if skipBlanks cs = [] then
    if date.Exists then .ok date.toDate else .error .outOfRange
  else .error .trailing

end HrPipeline.Calendar
