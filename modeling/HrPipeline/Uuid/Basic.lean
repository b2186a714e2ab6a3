import HrPipeline.Text.Digits

/-!
# Identifiers

An identifier is a number of 128 bits. It is written as 32 lower-case hexadecimal digits in five
groups with hyphens between them.
-/

namespace HrPipeline

/-- An identifier of 128 bits. -/
structure Uuid where
  bits : BitVec 128
deriving DecidableEq

namespace Uuid

open HrPipeline.Text

/-- The identifier without a set bit, which names nothing. -/
def nil : Uuid := ⟨0⟩

/-- The digits of the five groups. -/
def groups (id : Uuid) : List (List Char) :=
  let n := id.bits.toNat
  [fixedHex 8 (n / Nat.pow 16 24), fixedHex 4 (n / Nat.pow 16 20), fixedHex 4 (n / Nat.pow 16 16),
    fixedHex 4 (n / Nat.pow 16 12), fixedHex 12 n]

/-- The written form of an identifier. -/
def written (id : Uuid) : List Char := ['-'].intercalate id.groups

/-- The written form of an identifier as a text. -/
def text (id : Uuid) : String := String.ofList id.written

instance : ToString Uuid := ⟨text⟩

/-- The `n`-th identifier of a reserved range: a random-looking base with version 4 marks and the
number in its last group. -/
def reserved (n : Nat) : Uuid := ⟨0x9e3779b97f4a4c15bf58000000000000#128 + BitVec.ofNat 128 n⟩

/-- The first reserved identifier that is not taken; the one that names nothing if all are. -/
def unused (taken : List Uuid) : Uuid :=
  (((List.range (taken.length + 1)).map reserved).find? (· ∉ taken)).getD nil

end Uuid
end HrPipeline
