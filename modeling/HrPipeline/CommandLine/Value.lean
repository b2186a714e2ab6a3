import HrPipeline.Text.Digits

/-!
# Values on a command line

The values of flags are texts or whole numbers. A number may carry a plus sign and leading zeros;
a natural number may not carry a minus sign, not even before a zero.
-/

namespace HrPipeline.CommandLine

open HrPipeline.Text

/-- The kind of a flag's value. -/
inductive ValueKind where
  | text
  /-- A number from zero to a greatest one, written without a minus sign. -/
  | natural (greatest : Nat)
  /-- A number between two others. -/
  | integer (least greatest : Int)
deriving DecidableEq

/-- The value of a flag. -/
inductive Value where
  | text (value : String)
  | number (value : Int)
deriving DecidableEq

/-- The natural number that a text denotes. -/
def natural? : List Char → Option Nat
  | '+' :: cs => natOf? cs
  | cs => natOf? cs

/-- The whole number that a text denotes. -/
def integer? : List Char → Option Int
  | '-' :: cs => (natOf? cs).map fun n => -(n : Int)
  | cs => (natural? cs).map fun n => (n : Int)

/-- The value of a kind that a text denotes. -/
def ValueKind.read? (kind : ValueKind) (s : String) : Option Value :=
  match kind with
  | .text => some (.text s)
  | .natural greatest =>
    ((natural? s.toList).filter (· ≤ greatest)).map fun n => .number n
  | .integer least greatest =>
    ((integer? s.toList).filter fun n => least ≤ n ∧ n ≤ greatest).map .number

/-- Numbers of 32 bits without a sign. -/
def ValueKind.unsigned32 : ValueKind := .integer 0 0xFFFFFFFF

/-- Numbers of 64 bits without a sign. -/
def ValueKind.unsigned64 : ValueKind := .natural 0xFFFFFFFFFFFFFFFF

/-- Numbers of 32 bits with a sign. -/
def ValueKind.signed32 : ValueKind := .integer (-0x80000000) 0x7FFFFFFF

/-- Numbers of 64 bits with a sign. -/
def ValueKind.signed64 : ValueKind := .integer (-0x8000000000000000) 0x7FFFFFFFFFFFFFFF

end HrPipeline.CommandLine
