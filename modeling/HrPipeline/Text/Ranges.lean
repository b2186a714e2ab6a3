/-!
# Sets of code points

A property of characters is written down as a list of inclusive ranges of code points.
Membership is the only question asked of such a set.
-/

namespace HrPipeline.Text

/-- A set of code points as inclusive ranges. -/
abbrev Ranges := List (Nat × Nat)

/-- Whether a character lies in one of the ranges. -/
def Ranges.covers (ranges : Ranges) (c : Char) : Bool :=
  ranges.any fun range => range.1 ≤ c.toNat && c.toNat ≤ range.2

/-- Membership means that some range encloses the code point. -/
theorem Ranges.covers_iff (ranges : Ranges) (c : Char) :
    ranges.covers c = true ↔ ∃ range ∈ ranges, range.1 ≤ c.toNat ∧ c.toNat ≤ range.2 := by
  simp [Ranges.covers]

end HrPipeline.Text
