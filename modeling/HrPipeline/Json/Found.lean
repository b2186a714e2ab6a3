import HrPipeline.Json.Token

/-!
# Values in the wrong place

When a value stands where another kind of value is needed, its beginning is read to name it in the
refusal. A whole number of at most 64 bits is an integer; any other number is rounded to binary64.
Digits that would overflow 64 bits count only by their place.
-/

namespace HrPipeline.Json

open HrPipeline.Number HrPipeline.Text

/-- The largest whole number that digits are gathered into. -/
def largestInteger : Nat := Nat.pow 2 64 - 1

/-- Appends digits to a number as long as it stays within 64 bits, and counts those appended. -/
def gather (n : Nat) : Bytes → Nat × Nat
  | [] => (n, 0)
  | b :: rest =>
    let next := 10 * n + (b.toNat - 48)
    if largestInteger < next then (n, 0)
    else
      let later := gather next rest
      (later.1, later.2 + 1)

/-- The number `significand * 10 ^ exponent`, rounded. -/
def floating (negative : Bool) (significand : Nat) (exponent : Int) : Except Refusal Number :=
  match Binary64.ofScientific? significand exponent with
  | some magnitude => .ok (.float negative magnitude)
  | none => .error .malformed

/-- A number whose digits are read, from its exponent on. -/
def finishNumber (negative : Bool) (significand : Nat) (exponent : Int) (bytes : Bytes) :
    Except Refusal Number :=
  match bytes with
  | [] => floating negative significand exponent
  | b :: rest =>
    if b = 0x65 ∨ b = 0x45 then
      let down := rest.head? = some 0x2D
      let unsigned := if rest.head? = some 0x2B ∨ down then rest.tail else rest
      let digits := unsigned.takeWhile isDigit
      if unsigned.isEmpty then .error .unfinished
      else if digits.isEmpty then .error .malformed
      else
        let shift := ofDigits (digits.map fun d => d.toNat - 48)
        if shift < Nat.pow 2 31 then
          floating negative significand (if down then exponent - shift else exponent + shift)
        else if significand ≠ 0 ∧ ¬ down then .error .malformed
        else .ok (.float negative Binary64.zero)
    else floating negative significand exponent

/-- A whole number with its sign. What does not fit into 64 bits, and the negative zero, is a
floating point number. -/
def wholeNumber (negative : Bool) (n : Nat) : Except Refusal Number :=
  if ¬ negative then .ok (.integer n)
  else if 0 < n ∧ n ≤ Nat.pow 2 63 then .ok (.integer (-(n : Int)))
  else floating true n 0

/-- A number after its sign. -/
def readNumber (negative : Bool) (bytes : Bytes) : Except Refusal Number :=
  let digits := bytes.takeWhile isDigit
  let rest := bytes.dropWhile isDigit
  if bytes.isEmpty then .error .unfinished
  else if digits.isEmpty then .error .malformed
  else if digits.head? = some 0x30 ∧ 1 < digits.length then .error .malformed
  else
    let (whole, used) := gather 0 digits
    let exponent : Int := digits.length - used
    match rest with
    | [] => if exponent = 0 then wholeNumber negative whole else floating negative whole exponent
    | b :: more =>
      if b = 0x2E then
        let decimals := more.takeWhile isDigit
        let (significand, places) := gather whole decimals
        if more.isEmpty then .error .unfinished
        else if decimals.isEmpty then .error .malformed
        else finishNumber negative significand (exponent - places) (more.dropWhile isDigit)
      else if b = 0x65 ∨ b = 0x45 then finishNumber negative whole exponent (b :: more)
      else if exponent = 0 then wholeNumber negative whole
      else floating negative whole exponent

/-- Names the value that begins here. -/
def foundValue : Bytes → Except Refusal Found
  | [] => .error .malformed
  | b :: rest =>
    if b = 0x6E then (literal ull rest).map fun _ => .null
    else if b = 0x74 then (literal rue rest).map fun _ => .boolean true
    else if b = 0x66 then (literal alse rest).map fun _ => .boolean false
    else if b = 0x2D then (readNumber true rest).map .number
    else if isDigit b then (readNumber false (b :: rest)).map .number
    else if b = quoteMark then (text rest).map fun r => .text r.1
    else if b = openBracket then .ok .sequence
    else if b = openBrace then .ok .map
    else .error .malformed

/-- The refusal of the value that begins here where another is needed. -/
def wrongType (expected : Expected) (bytes : Bytes) : Refusal :=
  match foundValue bytes with
  | .ok found => .mismatch none (.wrongType found expected)
  | .error refusal => refusal

end HrPipeline.Json
