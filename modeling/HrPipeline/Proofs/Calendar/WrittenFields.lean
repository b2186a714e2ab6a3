import HrPipeline.Calendar.Reader
import HrPipeline.Calendar.Written
import HrPipeline.Proofs.Text.Digits

/-!
# Written dates and times are read back

The reader takes the numbers and marks of a written date and of a written time of day one by one.
Each lemma is about one of them at the front of any further characters.
-/

namespace HrPipeline.Calendar

open HrPipeline.Text

/-- A digit is no blank and no mark. -/
theorem isBlank_of_isDigit {c : Char} (h : c.isDigit = true) : isBlank c = false := by
  have hb : 48 ≤ c.toNat ∧ c.toNat ≤ 57 := by
    simpa [Char.isDigit, UInt32.le_iff_toNat_le] using h
  have hn : ¬ ∃ range ∈ blanks, range.1 ≤ c.toNat ∧ c.toNat ≤ range.2 := by
    simp only [blanks, List.mem_cons, List.not_mem_nil, or_false, exists_eq_or_imp,
      exists_eq_left]
    omega
  rw [← Ranges.covers_iff] at hn
  exact Bool.eq_false_iff.mpr hn

theorem skipBlanks_cons {c : Char} (h : isBlank c = false) (cs : List Char) :
    skipBlanks (c :: cs) = c :: cs := by
  simp [skipBlanks, h]

theorem skipBlanks_digits {digits rest : List Char} (hd : ∀ c ∈ digits, c.isDigit = true)
    (hne : digits ≠ []) : skipBlanks (digits ++ rest) = digits ++ rest := by
  cases digits with
  | nil => exact absurd rfl hne
  | cons c digits => exact skipBlanks_cons (isBlank_of_isDigit (hd c List.mem_cons_self)) _

private theorem takeWhile_digits {digits rest : List Char} (hd : ∀ c ∈ digits, c.isDigit = true)
    (hr : ∀ c, rest.head? = some c → c.isDigit = false) :
    (digits ++ rest).takeWhile Char.isDigit = digits := by
  rw [List.takeWhile_append_of_pos hd]
  cases rest with
  | nil => simp
  | cons c rest => simp [hr c rfl]

/-- A number is read up to its last digit, or up to the most digits it may have. -/
theorem number_digits {most : Option Nat} {digits rest : List Char}
    (hd : ∀ c ∈ digits, c.isDigit = true) (hne : digits ≠ [])
    (hstop : most = some digits.length ∨
      (∀ c, rest.head? = some c → c.isDigit = false) ∧ ∀ k, most = some k → digits.length ≤ k)
    (hsmall : ofDigits (digitValues digits) ≤ largestNumber) :
    number most (digits ++ rest) = .ok (ofDigits (digitValues digits), rest) := by
  have hnone : most = none → (digits ++ rest).takeWhile Char.isDigit = digits := by
    rintro rfl
    rcases hstop with h | ⟨hr, -⟩
    · cases h
    · exact takeWhile_digits hd hr
  have hsome : ∀ k, most = some k →
      ((digits ++ rest).take k).takeWhile Char.isDigit = digits := by
    rintro k rfl
    rcases hstop with h | ⟨hr, hk⟩
    · obtain rfl := Option.some.inj h
      have hnil : (digits ++ []).takeWhile Char.isDigit = digits := takeWhile_digits hd (by simp)
      simpa using hnil
    · rw [List.take_append, List.take_of_length_le (hk k rfl)]
      apply takeWhile_digits hd
      intro c hc
      rw [List.head?_take] at hc
      split at hc
      · cases hc
      · exact hr c hc
  have hnotempty : (digits ++ rest).isEmpty = false := by
    cases digits with
    | nil => exact absurd rfl hne
    | cons c digits => rfl
  have hdigits : digits.isEmpty = false := by
    cases digits with
    | nil => exact absurd rfl hne
    | cons c digits => rfl
  have hfits : ¬ largestNumber < ofDigits (digits.map fun c => c.toNat - 48) :=
    Nat.not_lt.mpr hsmall
  unfold number
  cases most with
  | none =>
    simp only [hnone rfl, hnotempty, hdigits, Bool.false_eq_true, if_false, if_neg hfits,
      List.drop_left]
    rfl
  | some k =>
    simp only [hsome k rfl, hnotempty, hdigits, Bool.false_eq_true, if_false, if_neg hfits,
      List.drop_left]
    rfl

/-- A field of two digits within its bounds. -/
theorem field_lastDigits {least most n : Nat} (hl : least ≤ n) (hm : n ≤ most) (hn : n < 100)
    (rest : List Char) : field least most (lastDigits 2 n ++ rest) = .ok (n, rest) := by
  have hd : ∀ c ∈ lastDigits 2 n, c.isDigit = true := fun c => isDigit_of_mem_lastDigits
  have hne : lastDigits 2 n ≠ [] := lastDigits_ne_nil (by decide) n
  have hv : ofDigits (digitValues (lastDigits 2 n)) = n := ofDigits_lastDigits_of_lt hn
  unfold field
  rw [skipBlanks_digits hd hne, number_digits hd hne (.inl (by rw [length_lastDigits]))]
  · simp only [hv, bind, Except.bind]
    rw [if_pos ⟨hl, hm⟩]
  · rw [hv]
    have : (100 : Nat) ≤ largestNumber := by decide
    omega

/-- A mark where it is expected. -/
theorem mark_cons {c : Char} (h : isBlank c = false) (rest : List Char) :
    mark c (c :: rest) = .ok rest := by
  unfold mark
  rw [skipBlanks_cons h]
  simp

/-- A year of four digits is scanned without a sign. -/
private theorem scanYear_fourDigits {year : Int} (h : 0 ≤ year ∧ year ≤ 9999) (rest : List Char) :
    scanYear (lastDigits 4 year.toNat ++ '-' :: rest) = .ok (year, '-' :: rest) := by
  have hd : ∀ c ∈ lastDigits 4 year.toNat, c.isDigit = true := fun c => isDigit_of_mem_lastDigits
  have hne : lastDigits 4 year.toNat ≠ [] := lastDigits_ne_nil (by decide) _
  have hv : ofDigits (digitValues (lastDigits 4 year.toNat)) = year.toNat :=
    ofDigits_lastDigits_of_lt (show year.toNat < 10000 by omega)
  have hnumber : number (some 4) (lastDigits 4 year.toNat ++ '-' :: rest) =
      .ok (year.toNat, '-' :: rest) := by
    rw [number_digits hd hne (.inl (by rw [length_lastDigits])), hv]
    rw [hv]
    have : (9999 : Nat) ≤ largestNumber := by decide
    omega
  have hback : (year.toNat : Int) = year := Int.toNat_of_nonneg h.1
  have hrange : -0x80000000 ≤ year ∧ year < 0x80000000 := by omega
  unfold scanYear
  rw [skipBlanks_digits hd hne]
  -- The first character is a digit, and so none of the signs.
  cases hcs : lastDigits 4 year.toNat with
  | nil => exact absurd hcs hne
  | cons c digits =>
    have hc := hd c (by rw [hcs]; exact List.mem_cons_self)
    rw [hcs] at hnumber
    rw [List.cons_append] at hnumber ⊢
    split
    · next he =>
      obtain ⟨rfl, -⟩ := List.cons.inj he
      cases hc
    · next he =>
      obtain ⟨rfl, -⟩ := List.cons.inj he
      cases hc
    · simp only [hnumber, Except.map, bind, Except.bind, hback]
      rw [if_pos hrange]

/-- Any other year of the supported ones is scanned with its sign. -/
private theorem scanYear_signed {year : Int} (hf : firstYear ≤ year) (hl : year ≤ lastYear)
    (rest : List Char) :
    scanYear ((if year < 0 then '-' else '+') :: (padded 4 year.natAbs ++ '-' :: rest)) =
      .ok (year, '-' :: rest) := by
  unfold firstYear at hf
  unfold lastYear at hl
  have hrange : -0x80000000 ≤ year ∧ year < 0x80000000 := by omega
  have hnumber : number none (padded 4 year.natAbs ++ '-' :: rest) =
      .ok (year.natAbs, '-' :: rest) := by
    rw [number_digits (fun c => isDigit_of_mem_padded) (padded_ne_nil _ _)
      (.inr ⟨by intro c hc; cases hc; rfl, by simp⟩), ofDigits_padded]
    rw [ofDigits_padded]
    have : (262143 : Nat) ≤ largestNumber := by decide
    omega
  unfold scanYear
  by_cases hn : year < 0
  · have hback : -(year.natAbs : Int) = year := by omega
    rw [if_pos hn, skipBlanks_cons (by decide)]
    simp only [hnumber, Except.map, bind, Except.bind, hback]
    rw [if_pos hrange]
  · have hback : (year.natAbs : Int) = year := by omega
    rw [if_neg hn, skipBlanks_cons (by decide)]
    simp only [hnumber, Except.map, bind, Except.bind, hback]
    rw [if_pos hrange]

/-- A written year of the supported ones, with a mark after it. -/
theorem scanYear_written {year : Int} (hf : firstYear ≤ year) (hl : year ≤ lastYear)
    (rest : List Char) : scanYear (writtenYear year ++ '-' :: rest) = .ok (year, '-' :: rest) := by
  unfold writtenYear
  by_cases h : 0 ≤ year ∧ year ≤ 9999
  · rw [if_pos h]
    exact scanYear_fourDigits h rest
  · rw [if_neg h]
    exact scanYear_signed hf hl rest

/-- A written date, whose month and day need not exist. -/
theorem scanCivil_written {c : Civil} (hf : firstYear ≤ c.year) (hl : c.year ≤ lastYear)
    (hm : 1 ≤ c.month ∧ c.month ≤ 12) (hd : 1 ≤ c.day ∧ c.day ≤ 31) (rest : List Char) :
    scanCivil (c.written ++ rest) = .ok (c, rest) := by
  have hw : c.written ++ rest = writtenYear c.year ++ '-' ::
      (lastDigits 2 c.month ++ '-' :: (lastDigits 2 c.day ++ rest)) := by
    simp [Civil.written]
  have hmonth : ∀ more, field 1 12 (lastDigits 2 c.month ++ more) = .ok (c.month, more) :=
    field_lastDigits hm.1 hm.2 (by omega)
  have hday : ∀ more, field 1 31 (lastDigits 2 c.day ++ more) = .ok (c.day, more) :=
    field_lastDigits hd.1 hd.2 (by omega)
  have hmark : ∀ more, mark '-' ('-' :: more) = .ok more := mark_cons (by decide)
  unfold scanCivil
  rw [hw, scanYear_written hf hl]
  simp only [bind, Except.bind, hmark, hmonth, hday]

/-- Digits after the point count by their number. -/
private theorem scanFraction_digits {width value : Nat} (hpos : 0 < width) (hle : width ≤ 9)
    (hlt : value < 10 ^ width) (rest : List Char) :
    scanFraction ('.' :: (lastDigits width value ++ 'Z' :: rest)) =
      .ok (value * 10 ^ (9 - width), 'Z' :: rest) := by
  have hv : ofDigits (digitValues (lastDigits width value)) = value :=
    ofDigits_lastDigits_of_lt hlt
  have hlarge : value ≤ largestNumber := by
    have hp : 10 ^ width ≤ 10 ^ 9 := Nat.pow_le_pow_right (by decide) hle
    have : (10 : Nat) ^ 9 ≤ largestNumber := by decide
    omega
  have hnumber : number (some 9) (lastDigits width value ++ 'Z' :: rest) =
      .ok (value, 'Z' :: rest) := by
    rw [number_digits (fun c => isDigit_of_mem_lastDigits) (lastDigits_ne_nil hpos value)
      (.inr ⟨?_, ?_⟩), hv]
    · rw [hv]
      exact hlarge
    · intro c hc
      obtain rfl := Option.some.inj hc
      rfl
    · intro k hk
      obtain rfl := Option.some.inj hk
      rw [length_lastDigits]
      exact hle
  unfold scanFraction
  simp only [hnumber, bind, Except.bind, List.length_append, length_lastDigits]
  rw [Nat.add_sub_cancel]
  rfl

/-- A written fraction of a second, with the sign of universal time after it. -/
theorem scanFraction_written {nano : Nat} (h : nano < nanosPerSecond) (rest : List Char) :
    scanFraction (writtenFraction nano ++ 'Z' :: rest) = .ok (nano, 'Z' :: rest) := by
  unfold writtenFraction
  unfold nanosPerSecond at h
  by_cases hz : nano = 0
  · rw [if_pos hz, hz]
    rfl
  · rw [if_neg hz]
    by_cases hm : nano % 1000000 = 0
    · rw [if_pos hm, List.cons_append,
        scanFraction_digits (by decide) (by decide) (by omega) rest]
      congr 2
      omega
    · rw [if_neg hm]
      by_cases hu : nano % 1000 = 0
      · rw [if_pos hu, List.cons_append,
          scanFraction_digits (by decide) (by decide) (by omega) rest]
        congr 2
        omega
      · rw [if_neg hu, List.cons_append,
          scanFraction_digits (by decide) (by decide) (by omega) rest]
        congr 2
        omega

end HrPipeline.Calendar
