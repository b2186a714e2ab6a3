/-!
# Binary floating point numbers of 64 bits

Magnitudes of the binary64 format as exact numbers `mantissa * 2 ^ exponent`, with the rounding of
quotients to the nearest of them, ties to the even mantissa, and the decimal digits that are the
fewest to identify one.
-/

namespace HrPipeline.Number

/-- A finite magnitude. The mantissa stays below `2 ^ 53` and the exponent within -1074 to 971. -/
structure Binary64 where
  mantissa : Nat
  exponent : Int
deriving DecidableEq

namespace Binary64

/-- The magnitude zero. -/
def zero : Binary64 := ⟨0, -1074⟩

/-- A quotient to the nearest whole number, a half to the even one. -/
def roundQuotient (num den : Nat) : Nat :=
  let q := num / den
  let twice := 2 * (num % den)
  if twice < den then q else if den < twice then q + 1 else if q % 2 = 0 then q else q + 1

/-- A number times a power of two, as a quotient. -/
def scaled (num den : Nat) (power : Int) : Nat × Nat :=
  if 0 ≤ power then (num * Nat.pow 2 power.toNat, den)
  else (num, den * Nat.pow 2 power.natAbs)

/-- The magnitude nearest to `num / den * 2 ^ power`; nothing if it is too large. -/
def ofQuotient? (num den : Nat) (power : Int) : Option Binary64 :=
  if num = 0 then some zero
  else
    let guess : Int := Nat.log2 num - Nat.log2 den - 52
    let (n, d) := scaled num den (-guess)
    let exact := if n / d < Nat.pow 2 52 then guess - 1 else guess
    let exponent := max (exact + power) (-1074)
    let (n, d) := scaled num den (power - exponent)
    let m := roundQuotient n d
    let (m, exponent) := if m = Nat.pow 2 53 then (Nat.pow 2 52, exponent + 1) else (m, exponent)
    if 971 < exponent then none else some ⟨m, exponent⟩

/-- The magnitude nearest to a natural number. -/
def ofNat? (n : Nat) : Option Binary64 := ofQuotient? n 1 0

/-- The product, rounded. -/
def mul? (x y : Binary64) : Option Binary64 :=
  ofQuotient? (x.mantissa * y.mantissa) 1 (x.exponent + y.exponent)

/-- The quotient by a number that is not zero, rounded. -/
def div? (x y : Binary64) : Option Binary64 :=
  ofQuotient? x.mantissa y.mantissa (x.exponent - y.exponent)

/-- The magnitude nearest to a power of ten. -/
def powerOfTen? (k : Nat) : Option Binary64 := ofNat? (Nat.pow 10 k)

/-- The largest power of ten that is applied in one step. -/
def largestStep : Nat := 308

/-- A whole number times a power of ten, rounded after each step of at most `largestStep`
powers. Nothing if it is too large. -/
def ofScientific? (significand : Nat) (exponent : Int) : Option Binary64 :=
  if significand = 0 then some zero
  else if 0 ≤ exponent then
    if largestStep < exponent then none
    else do (← ofNat? significand).mul? (← powerOfTen? exponent.toNat)
  else if exponent.natAbs ≤ largestStep then
    do (← ofNat? significand).div? (← powerOfTen? exponent.natAbs)
  else if exponent.natAbs ≤ 2 * largestStep then
    do
      let first ← (← ofNat? significand).div? (← powerOfTen? largestStep)
      first.div? (← powerOfTen? (exponent.natAbs - largestStep))
  else some zero

/-- Whether `num * 10 ^ power` lies between the midpoints to the two neighbours of `x`. A midpoint
itself counts if the mantissa is even. -/
def identifies (x : Binary64) (num : Nat) (power : Int) : Bool :=
  let below := if x.mantissa = Nat.pow 2 52 ∧ -1074 < x.exponent then 1 else 2
  let (n, d) :=
    if 0 ≤ power then (num * Nat.pow 10 power.toNat, 1) else (num, Nat.pow 10 power.natAbs)
  let (low, e) := scaled (4 * x.mantissa - below) 1 (x.exponent - 2)
  let (high, _) := scaled (4 * x.mantissa + 2) 1 (x.exponent - 2)
  if x.mantissa % 2 = 0 then low * d ≤ n * e && n * e ≤ high * d
  else low * d < n * e && n * e < high * d

/-- The neighbours of `x` among the multiples of `10 ^ power`, the nearer one first. -/
def neighbours (x : Binary64) (power : Int) : List Nat :=
  let (n, d) := scaled x.mantissa 1 x.exponent
  let (n, d) :=
    if 0 ≤ power then (n, d * Nat.pow 10 power.toNat) else (n * Nat.pow 10 power.natAbs, d)
  let q := n / d
  if roundQuotient n d = q then [q, q + 1] else [q + 1, q]

/-- The digits and the power of ten of the shortest decimal that identifies a magnitude, searching
from `start` downwards. -/
def shortestFrom (x : Binary64) : Nat → Int → Nat × Int
  | 0, power => (0, power)
  | fuel + 1, power =>
    match (neighbours x power).find? fun n => n ≠ 0 && identifies x n power with
    | some n => (n, power)
    | none => shortestFrom x fuel (power - 1)

/-- The shortest decimal that identifies a magnitude: a whole number and a power of ten. -/
def shortest (x : Binary64) : Nat × Int := shortestFrom x 640 309

/-- Positional notation is used from this decimal exponent on. -/
def leastPositional : Int := -5

/-- Positional notation is used up to this decimal exponent. -/
def greatestPositional : Int := 15

/-- The text of a magnitude: positional with at least one decimal, otherwise scientific with a
signed exponent. -/
def text (x : Binary64) : String :=
  if x.mantissa = 0 then "0.0"
  else
    let (n, power) := shortest x
    let digits := Nat.toDigits 10 n
    let exponent := power + digits.length - 1
    if leastPositional ≤ exponent ∧ exponent ≤ greatestPositional then
      String.ofList <|
        if exponent < 0 then
          '0' :: '.' :: (List.replicate (exponent.natAbs - 1) '0' ++ digits)
        else if 0 ≤ power then digits ++ List.replicate power.toNat '0' ++ ['.', '0']
        else digits.take (exponent.toNat + 1) ++ '.' :: digits.drop (exponent.toNat + 1)
    else
      let fraction := if digits.length = 1 then [] else '.' :: digits.drop 1
      let sign := if exponent < 0 then '-' else '+'
      String.ofList (digits.take 1 ++ fraction ++ 'e' :: sign :: Nat.toDigits 10 exponent.natAbs)

end Binary64
end HrPipeline.Number
