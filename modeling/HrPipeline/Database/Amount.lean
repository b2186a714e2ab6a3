import HrPipeline.Text.Digits

/-!
# Amounts of money

Amounts are kept in whole hundredths, of at most twelve digits before the point. A decimal number
becomes an amount by rounding, a half going away from zero.
-/

namespace HrPipeline

open HrPipeline.Text

/-- A decimal number `coefficient * 10 ^ exponent`. -/
structure Decimal where
  coefficient : Int
  exponent : Int
deriving DecidableEq

/-- An amount in hundredths. -/
structure Amount where
  hundredths : Int
deriving DecidableEq

/-- A quotient of natural numbers to the nearest whole number, a half upwards. -/
def roundHalfUp (num den : Nat) : Nat := (2 * num + den) / (2 * den)

namespace Decimal

/-- The hundredths of a decimal number, rounded. -/
def hundredths (d : Decimal) : Int :=
  let exponent := d.exponent + 2
  let size :=
    if 0 ≤ exponent then d.coefficient.natAbs * Nat.pow 10 exponent.toNat
    else roundHalfUp d.coefficient.natAbs (Nat.pow 10 exponent.natAbs)
  if d.coefficient < 0 then -size else size

/-- The text of a decimal number, in positional notation with all its decimals. -/
def text (d : Decimal) : String :=
  let places := (-d.exponent).toNat
  let digits := padded (places + 1) (d.coefficient.natAbs * Nat.pow 10 d.exponent.toNat)
  let whole := digits.take (digits.length - places)
  let fraction := digits.drop (digits.length - places)
  String.ofList <| (if d.coefficient < 0 then ['-'] else []) ++ whole
    ++ (if fraction.isEmpty then [] else '.' :: fraction)

/-- An integer with an optional sign. -/
private def signedDigits? : List Char → Option Int
  | '-' :: cs => (natOf? cs).map fun n => -(n : Int)
  | '+' :: cs => (natOf? cs).map fun n => (n : Int)
  | cs => (natOf? cs).map fun n => (n : Int)

/-- The decimal number that a text denotes: digits with an optional sign, point and exponent. -/
def read? (s : String) : Option Decimal :=
  let cs := s.toList
  let base := cs.takeWhile fun c => c ≠ 'e' ∧ c ≠ 'E'
  let whole := base.takeWhile (· ≠ '.')
  let fraction := (base.dropWhile (· ≠ '.')).drop 1
  let exponent? := match cs.drop base.length with
    | [] => some 0
    | _ :: digits => signedDigits? digits
  match signedDigits? (whole ++ fraction), exponent? with
  | some coefficient, some exponent => some ⟨coefficient, exponent - fraction.length⟩
  | _, _ => none

end Decimal

namespace Amount

/-- The amount of nothing. -/
def zero : Amount := ⟨0⟩

/-- The hundredths from which on an amount has too many digits. -/
def limit : Nat := Nat.pow 10 14

/-- The amount nearest to a decimal number; nothing if it has too many digits. -/
def ofDecimal? (d : Decimal) : Option Amount :=
  if d.hundredths.natAbs < limit then some ⟨d.hundredths⟩ else none

/-- The text of an amount: two decimals, but zero without any. -/
def text (amount : Amount) : String :=
  let size := amount.hundredths.natAbs
  if size = 0 then "0"
  else
    String.ofList <| (if amount.hundredths < 0 then ['-'] else [])
      ++ Nat.toDigits 10 (size / 100) ++ '.' :: lastDigits 2 (size % 100)

end Amount
end HrPipeline
