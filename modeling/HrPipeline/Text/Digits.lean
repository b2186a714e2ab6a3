/-!
# Digits

Values of digit characters, and numbers written with a fixed or a least number of digits.
-/

namespace HrPipeline.Text

/-- The value of the ASCII digit with this code. -/
def digitValue? (code : Nat) : Option Nat :=
  if 48 ≤ code ∧ code ≤ 57 then some (code - 48) else none

/-- The value of the hexadecimal digit with this code, in either case. -/
def hexValue? (code : Nat) : Option Nat :=
  if 48 ≤ code ∧ code ≤ 57 then some (code - 48)
  else if 97 ≤ code ∧ code ≤ 102 then some (code - 87)
  else if 65 ≤ code ∧ code ≤ 70 then some (code - 55)
  else none

/-- The number that a list of digit values denotes to the base ten. -/
def ofDigits (digits : List Nat) : Nat := digits.foldl (fun n d => 10 * n + d) 0

/-- A number with zeros in front, so that it has at least `width` digits. -/
def padded (width n : Nat) : List Char :=
  let digits := Nat.toDigits 10 n
  List.replicate (width - digits.length) '0' ++ digits

/-- The last `width` decimal digits of a number. -/
def lastDigits : Nat → Nat → List Char
  | 0, _ => []
  | width + 1, n => lastDigits width (n / 10) ++ [Nat.digitChar (n % 10)]

/-- A number to the base sixteen in exactly `width` lower-case digits. -/
def fixedHex : Nat → Nat → List Char
  | 0, _ => []
  | width + 1, n => fixedHex width (n / 16) ++ [Nat.digitChar (n % 16)]

/-- A list of ASCII digits as a number; nothing if it is empty or holds another character. -/
def natOf? (cs : List Char) : Option Nat :=
  if cs.isEmpty then none else (cs.mapM fun c => digitValue? c.toNat).map ofDigits

/-- Fixed-width hexadecimal writing gives the announced number of digits. -/
theorem length_fixedHex (width n : Nat) : (fixedHex width n).length = width := by
  induction width generalizing n with
  | zero => rfl
  | succ width ih => simp [fixedHex, ih]

/-- Fixed-width decimal writing gives the announced number of digits. -/
theorem length_lastDigits (width n : Nat) : (lastDigits width n).length = width := by
  induction width generalizing n with
  | zero => rfl
  | succ width ih => simp [lastDigits, ih]

end HrPipeline.Text
