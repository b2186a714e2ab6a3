import HrPipeline.Text.Ranges

/-!
# Blanks

The Unicode property `White_Space`, and trimming by it. A zero-width space, a byte order mark
and the separators U+001C to U+001F are no blanks.
-/

namespace HrPipeline.Text

/-- The code points with the property `White_Space`. -/
def blanks : Ranges := [
  (0x9, 0xD), (0x20, 0x20), (0x85, 0x85), (0xA0, 0xA0), (0x1680, 0x1680), (0x2000, 0x200A),
  (0x2028, 0x2029), (0x202F, 0x202F), (0x205F, 0x205F), (0x3000, 0x3000)]

/-- Whether a character counts as white space. -/
def isBlank (c : Char) : Bool := blanks.covers c

/-- Whether nothing but white space stands in a text; the empty text qualifies. -/
def isBlankText (s : String) : Bool := s.toList.all isBlank

/-- A list of characters without the blanks at its front. -/
def skipBlanks (cs : List Char) : List Char := cs.dropWhile isBlank

/-- A list of characters without the blanks at its end. -/
def dropTrailingBlanks (cs : List Char) : List Char := (skipBlanks cs.reverse).reverse

/-- A text without the blanks at its two ends. -/
def trim (s : String) : String := String.ofList (dropTrailingBlanks (skipBlanks s.toList))

/-- Trimming leaves nothing exactly of a text of blanks. -/
theorem skipBlanks_eq_nil_iff (cs : List Char) : skipBlanks cs = [] ↔ cs.all isBlank = true := by
  induction cs with
  | nil => simp [skipBlanks]
  | cons c cs ih =>
    unfold skipBlanks at ih ⊢
    by_cases h : isBlank c = true
    · simp [h, ih]
    · simp [h]

end HrPipeline.Text
