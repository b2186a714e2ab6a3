import HrPipeline.Text.Digits
import Mathlib.Algebra.Group.Nat.Defs

/-!
# Written numbers are read back

The digits of a number lead back to the number: all of it where it was written in full, and its
last digits where the width was fixed. Digits of two widths side by side are those of the sum.
-/

namespace HrPipeline.Text

/-- The value of a hexadecimal digit is read back. -/
theorem hexValue?_digitChar {n : Nat} (h : n < 16) : hexValue? (Nat.digitChar n).toNat = some n := by
  revert n
  decide

/-- The number that hexadecimal digits denote. -/
def ofHexDigits (digits : List Nat) : Nat := digits.foldl (fun n d => 16 * n + d) 0

theorem ofHexDigits_append (digits : List Nat) (d : Nat) :
    ofHexDigits (digits ++ [d]) = 16 * ofHexDigits digits + d := by
  simp [ofHexDigits]

/-- Hexadecimal digits of a fixed width are those of the number's remainder. -/
theorem exists_hexDigits (width n : Nat) :
    ∃ digits, (fixedHex width n).mapM (fun c => hexValue? c.toNat) = some digits ∧
      ofHexDigits digits = n % 16 ^ width := by
  induction width generalizing n with
  | zero => exact ⟨[], rfl, (Nat.mod_one n).symm⟩
  | succ width ih =>
    obtain ⟨digits, hd, hn⟩ := ih (n / 16)
    refine ⟨digits ++ [n % 16], ?_, ?_⟩
    · have hlast : hexValue? (Nat.digitChar (n % 16)).toNat = some (n % 16) :=
        hexValue?_digitChar (Nat.mod_lt n (by decide))
      simp [fixedHex, List.mapM_append, hd, hlast]
    · rw [ofHexDigits_append, hn, Nat.pow_succ, Nat.mul_comm (16 ^ width), Nat.mod_mul,
        Nat.add_comm]

/-- Hexadecimal digits of a fixed width are small digits. -/
theorem exists_digitChar_of_mem_fixedHex {width n : Nat} {c : Char} (h : c ∈ fixedHex width n) :
    ∃ m < 16, c = Nat.digitChar m := by
  induction width generalizing n with
  | zero => cases h
  | succ width ih =>
    rcases List.mem_append.mp h with h | h
    · exact ih h
    · exact ⟨n % 16, Nat.mod_lt n (by decide), List.mem_singleton.mp h⟩

/-- Digits of two widths side by side. -/
theorem fixedHex_append (first second n : Nat) :
    fixedHex first (n / 16 ^ second) ++ fixedHex second n = fixedHex (first + second) n := by
  induction second generalizing n with
  | zero => simp [fixedHex]
  | succ second ih =>
    have hdiv : n / 16 ^ (second + 1) = n / 16 / 16 ^ second := by
      rw [Nat.pow_succ, Nat.mul_comm, Nat.div_div_eq_div_mul]
    rw [fixedHex, ← List.append_assoc, hdiv, ih, ← Nat.add_assoc, fixedHex]

theorem ofDigits_append (digits : List Nat) (d : Nat) :
    ofDigits (digits ++ [d]) = 10 * ofDigits digits + d := by
  simp [ofDigits]

/-- The values of digit characters. -/
def digitValues (cs : List Char) : List Nat := cs.map fun c => c.toNat - 48

theorem isDigit_digitChar {n : Nat} (h : n < 10) : (Nat.digitChar n).isDigit = true := by
  rw [Nat.isDigit_digitChar]
  exact decide_eq_true h

/-- Decimal digits of a fixed width are digits. -/
theorem isDigit_of_mem_lastDigits {width n : Nat} {c : Char} (h : c ∈ lastDigits width n) :
    c.isDigit = true := by
  induction width generalizing n with
  | zero => cases h
  | succ width ih =>
    rcases List.mem_append.mp h with h | h
    · exact ih h
    · rw [List.mem_singleton.mp h]
      exact isDigit_digitChar (Nat.mod_lt n (by decide))

/-- Decimal digits of a fixed width denote the number's remainder. -/
theorem ofDigits_lastDigits (width n : Nat) :
    ofDigits (digitValues (lastDigits width n)) = n % 10 ^ width := by
  induction width generalizing n with
  | zero => exact (Nat.mod_one n).symm
  | succ width ih =>
    have hlast := Nat.toNat_digitChar_sub_48_of_lt_ten (Nat.mod_lt n (by decide : 0 < 10))
    unfold digitValues at ih ⊢
    rw [lastDigits, List.map_append, List.map_singleton, ofDigits_append, ih, hlast,
      Nat.pow_succ, Nat.mul_comm (10 ^ width), Nat.mod_mul, Nat.add_comm]

/-- A number that fits is denoted by its digits of a fixed width. -/
theorem ofDigits_lastDigits_of_lt {width n : Nat} (h : n < 10 ^ width) :
    ofDigits (digitValues (lastDigits width n)) = n :=
  (ofDigits_lastDigits width n).trans (Nat.mod_eq_of_lt h)

theorem lastDigits_ne_nil {width : Nat} (h : 0 < width) (n : Nat) : lastDigits width n ≠ [] := by
  intro hnil
  have hl := length_lastDigits width n
  rw [hnil, List.length_nil] at hl
  omega

/-- The digits of a number in full denote it. -/
theorem ofDigits_toDigits (n : Nat) : ofDigits (digitValues (Nat.toDigits 10 n)) = n := by
  induction n using Nat.strongRecOn with
  | ind n ih =>
    have hlast := Nat.toNat_digitChar_sub_48_of_lt_ten (Nat.mod_lt n (by decide : 0 < 10))
    unfold digitValues at ih ⊢
    rw [Nat.toDigits_eq_if (by decide)]
    split
    · next h =>
      rw [Nat.mod_eq_of_lt h] at hlast
      simp [ofDigits, hlast]
    · rw [List.map_append, List.map_singleton, ofDigits_append, ih (n / 10) (by omega), hlast]
      omega

/-- Zeros in front change nothing. -/
theorem ofDigits_padded (width n : Nat) : ofDigits (digitValues (padded width n)) = n := by
  have hzeros : ∀ (zeros : Nat) (digits : List Nat),
      ofDigits (List.replicate zeros 0 ++ digits) = ofDigits digits := by
    intro zeros digits
    induction zeros with
    | zero => rfl
    | succ zeros ih =>
      rw [List.replicate_succ, List.cons_append]
      exact ih
  have h := ofDigits_toDigits n
  unfold digitValues at h ⊢
  rw [padded, List.map_append, List.map_replicate]
  exact (hzeros _ _).trans h

theorem isDigit_of_mem_padded {width n : Nat} {c : Char} (h : c ∈ padded width n) :
    c.isDigit = true := by
  rcases List.mem_append.mp h with h | h
  · rw [List.eq_of_mem_replicate h]
    rfl
  · exact Nat.isDigit_of_mem_toDigits (by decide) (by decide) h

theorem padded_ne_nil (width n : Nat) : padded width n ≠ [] := by
  intro h
  have hl := congrArg List.length h
  have hp := Nat.length_toDigits_pos (b := 10) (n := n)
  rw [padded, List.length_append] at hl
  simp only [List.length_nil] at hl
  omega

end HrPipeline.Text
