import HrPipeline.Proofs.Text.Utf8
import HrPipeline.Text.Blank
import HrPipeline.Text.LowerCase

/-!
# Trimmed texts and small letters

A trimmed text ends with no blank and has only characters of the text it was cut from. A small
letter that is not the character itself lies at `a` or beyond, so that turning a text into small
letters brings in neither spaces nor control characters.
-/

namespace HrPipeline.Text

theorem skipBlanks_sublist (cs : List Char) : List.Sublist (skipBlanks cs) cs :=
  List.dropWhile_sublist isBlank

/-- Trimming only leaves characters out. -/
theorem mem_of_mem_trim {s : String} {c : Char} (h : c ∈ (trim s).toList) : c ∈ s.toList := by
  rw [trim, String.toList_ofList, dropTrailingBlanks, List.mem_reverse] at h
  have hm := (skipBlanks_sublist _).mem h
  exact (skipBlanks_sublist _).mem (List.mem_reverse.mp hm)

/-- What is left behind the blanks at the front does not begin with a blank. -/
theorem isBlank_of_head?_skipBlanks {cs : List Char} {c : Char}
    (h : (skipBlanks cs).head? = some c) : isBlank c = false := by
  have hhead := List.head?_dropWhile_not isBlank cs
  rw [← skipBlanks, h] at hhead
  exact hhead

/-- What is left of a list without the blanks at its end does not end with a blank. -/
theorem isBlank_of_getLast?_dropTrailingBlanks {cs : List Char} {c : Char}
    (h : (dropTrailingBlanks cs).getLast? = some c) : isBlank c = false := by
  rw [dropTrailingBlanks, List.getLast?_reverse] at h
  exact isBlank_of_head?_skipBlanks h

/-- A trimmed text does not end with a blank. -/
theorem isBlank_of_getLast?_trim {s : String} {c : Char} (h : (trim s).toList.getLast? = some c) :
    isBlank c = false := by
  rw [trim, String.toList_ofList] at h
  exact isBlank_of_getLast?_dropTrailingBlanks h

/-- Dropping the blanks at the end leaves a part from the front. -/
theorem isPrefix_dropTrailingBlanks (cs : List Char) :
    List.IsPrefix (dropTrailingBlanks cs) cs := by
  have hsuffix : List.IsSuffix (skipBlanks cs.reverse) cs.reverse := List.dropWhile_suffix isBlank
  rw [← List.reverse_prefix, List.reverse_reverse] at hsuffix
  exact hsuffix

/-- A list that does not begin with a blank has none to skip. -/
theorem skipBlanks_eq_self {cs : List Char} (h : ∀ c, cs.head? = some c → isBlank c = false) :
    skipBlanks cs = cs := by
  cases cs with
  | nil => rfl
  | cons c cs => exact List.dropWhile_cons_of_neg (by simp [h c rfl])

/-- Nothing is dropped exactly from a list that does not end with a blank. -/
theorem dropTrailingBlanks_eq_self_iff (cs : List Char) :
    dropTrailingBlanks cs = cs ↔ ∀ c, cs.getLast? = some c → isBlank c = false := by
  constructor
  · intro h c hc
    rw [← h] at hc
    exact isBlank_of_getLast?_dropTrailingBlanks hc
  · intro h
    have hreverse : skipBlanks cs.reverse = cs.reverse :=
      skipBlanks_eq_self fun c hc => h c (by rwa [List.head?_reverse] at hc)
    rw [dropTrailingBlanks, hreverse, List.reverse_reverse]

/-- All is dropped exactly from a list of blanks. -/
theorem dropTrailingBlanks_eq_nil_iff (cs : List Char) :
    dropTrailingBlanks cs = [] ↔ cs.all isBlank = true := by
  rw [dropTrailingBlanks, List.reverse_eq_nil_iff, skipBlanks_eq_nil_iff, List.all_reverse]

/-- Trimming leaves nothing exactly of a text of blanks. -/
theorem toList_trim_eq_nil_iff (s : String) : (trim s).toList = [] ↔ isBlankText s = true := by
  have hskip : skipBlanks (skipBlanks s.toList) = skipBlanks s.toList :=
    skipBlanks_eq_self fun _ => isBlank_of_head?_skipBlanks
  rw [trim, String.toList_ofList, dropTrailingBlanks_eq_nil_iff, ← skipBlanks_eq_nil_iff, hskip,
    skipBlanks_eq_nil_iff, isBlankText]

/-- A trimmed text does not begin with a blank. -/
theorem isBlank_of_head?_trim {s : String} {c : Char} (h : (trim s).toList.head? = some c) :
    isBlank c = false := by
  rw [trim, String.toList_ofList] at h
  obtain ⟨dropped, heq⟩ := isPrefix_dropTrailingBlanks (skipBlanks s.toList)
  refine isBlank_of_head?_skipBlanks (?_ : (skipBlanks s.toList).head? = some c)
  rw [← heq, List.head?_append, h, Option.some_or]

/-- Every run of capital letters has its small letters at `a` or beyond. -/
private theorem lowerRuns_ge : ∀ run ∈ lowerRuns, 0x61 ≤ run.1 + run.2.2.2 ∧
    (run.2.1 + run.2.2.2 < 0xD800 ∨
      0xDFFF < run.1 + run.2.2.2 ∧ run.2.1 + run.2.2.2 < 0x110000) := by
  decide +kernel

/-- A character is its own small form, or its small form lies at `a` or beyond. -/
theorem lowerChar_eq_or_le (c : Char) : lowerChar c = c ∨ 0x61 ≤ (lowerChar c).toNat := by
  unfold lowerChar
  simp only
  split
  · next run hrun =>
    have hr := lowerRuns_ge run (List.mem_of_find?_eq_some hrun)
    have hc := List.find?_some hrun
    simp only [Bool.and_eq_true, decide_eq_true_eq] at hc
    have hvalid : (c.toNat + run.2.2.2).toNat.isValidChar := by
      unfold Nat.isValidChar
      omega
    right
    rw [toNat_ofNat hvalid]
    omega
  · exact .inl rfl

/-- The first character gives a form of its own, of one or two characters. -/
private theorem exists_small (before : List Char) (c : Char) (rest : List Char) :
    ∃ small, lowerFrom before (c :: rest) = small ++ lowerFrom (c :: before) rest ∧
      small ≠ [] ∧ ∀ d ∈ small, d = c ∨ 0x61 ≤ d.toNat := by
  refine ⟨_, rfl, ?_, ?_⟩
  · split
    · exact List.cons_ne_nil _ _
    · split <;> exact List.cons_ne_nil _ _
  · split
    · intro d hd
      right
      split at hd <;> (rw [List.mem_singleton.mp hd]; decide)
    · split
      · intro d hd
        right
        simp only [List.mem_cons, List.not_mem_nil, or_false] at hd
        rcases hd with rfl | rfl
        · decide
        · decide
      · intro d hd
        rw [List.mem_singleton.mp hd]
        exact lowerChar_eq_or_le c

/-- Small letters bring in no character below `a`. -/
theorem mem_of_mem_lowerFrom {before cs : List Char} {c : Char} (h : c ∈ lowerFrom before cs)
    (hc : c.toNat < 0x61) : c ∈ cs := by
  induction cs generalizing before with
  | nil => cases h
  | cons d cs ih =>
    obtain ⟨small, heq, -, hsmall⟩ := exists_small before d cs
    rw [heq] at h
    rcases List.mem_append.mp h with h | h
    · rcases hsmall c h with rfl | hle
      · exact List.mem_cons_self
      · omega
    · exact List.mem_cons_of_mem d (ih h)

/-- Nor do they put such a character at the end. -/
theorem getLast?_of_getLast?_lowerFrom {before cs : List Char} {c : Char}
    (h : (lowerFrom before cs).getLast? = some c) (hc : c.toNat < 0x61) :
    cs.getLast? = some c := by
  induction cs generalizing before with
  | nil => cases h
  | cons d cs ih =>
    obtain ⟨small, heq, hne, hsmall⟩ := exists_small before d cs
    rw [heq] at h
    cases cs with
    | nil =>
      rw [lowerFrom, List.append_nil] at h
      rcases hsmall c (List.mem_of_getLast? h) with rfl | hle
      · rfl
      · omega
    | cons e cs =>
      obtain ⟨next, heq', hne', -⟩ := exists_small (d :: before) e cs
      cases hlast : (lowerFrom (d :: before) (e :: cs)).getLast? with
      | none => simp [heq', hne'] at hlast
      | some last =>
        rw [List.getLast?_append, hlast, Option.some_or] at h
        rw [List.getLast?_cons_cons]
        exact ih (hlast.trans h)

/-- Neither a trimmed text nor its form in small letters ends with a space. -/
theorem getLast?_trim_ne (s : String) : (trim s).toList.getLast? ≠ some ' ' := by
  intro h
  exact absurd (isBlank_of_getLast?_trim h) (by decide)

theorem getLast?_lowerCase_trim_ne (s : String) :
    (lowerCase (trim s)).toList.getLast? ≠ some ' ' := by
  intro h
  rw [lowerCase, String.toList_ofList] at h
  exact getLast?_trim_ne s (getLast?_of_getLast?_lowerFrom h (by decide))

end HrPipeline.Text
