import HrPipeline.Json.Token
import HrPipeline.Proofs.Text.Utf8

/-!
# UTF-16 units

A character of the first plane is one unit of 16 bits, any other character a pair of surrogates.
Units may be joined into characters again unless a surrogate among them stands alone.
-/

namespace HrPipeline.Text

open HrPipeline.Json (isHighSurrogate isLowSurrogate)

/-- The UTF-16 form of a character. -/
def utf16Char (c : Char) : List UInt16 :=
  if c.toNat < 0x10000 then [UInt16.ofNat c.toNat]
  else [UInt16.ofNat (0xD800 + (c.toNat - 0x10000) / 0x400),
    UInt16.ofNat (0xDC00 + (c.toNat - 0x10000) % 0x400)]

/-- The UTF-16 form of a text. -/
def utf16 (cs : List Char) : List UInt16 := cs.flatMap utf16Char

/-- The number of the character that a pair of surrogates stands for. -/
def pairCode (high low : Nat) : Nat := 0x10000 + (high - 0xD800) * 0x400 + (low - 0xDC00)

/-- The text whose UTF-16 form the units are. -/
def ofUtf16? : List UInt16 → Option (List Char)
  | [] => some []
  | unit :: units =>
    if isLowSurrogate unit.toNat then none
    else if isHighSurrogate unit.toNat then
      match units with
      | [] => none
      | low :: units =>
        if isLowSurrogate low.toNat then
          (ofUtf16? units).map (Char.ofNat (pairCode unit.toNat low.toNat) :: ·)
        else none
    else (ofUtf16? units).map (Char.ofNat unit.toNat :: ·)

theorem isLowSurrogate_iff {n : Nat} : isLowSurrogate n = true ↔ 0xDC00 ≤ n ∧ n ≤ 0xDFFF := by
  simp [isLowSurrogate]

theorem isHighSurrogate_iff {n : Nat} : isHighSurrogate n = true ↔ 0xD800 ≤ n ∧ n ≤ 0xDBFF := by
  simp [isHighSurrogate]

/-- A character is no surrogate and lies within the seventeen planes. -/
theorem toNat_bounds (c : Char) : c.toNat < 0xD800 ∨ 0xDFFF < c.toNat ∧ c.toNat < 0x110000 :=
  c.valid

theorem utf16Char_of_lt {c : Char} (h : c.toNat < 0x10000) :
    utf16Char c = [UInt16.ofNat c.toNat] := if_pos h

theorem utf16_cons (c : Char) (cs : List Char) : utf16 (c :: cs) = utf16Char c ++ utf16 cs := rfl

/-- A unit that is no surrogate is a character. -/
theorem ofUtf16?_single {unit : UInt16} (hlow : isLowSurrogate unit.toNat = false)
    (hhigh : isHighSurrogate unit.toNat = false) (units : List UInt16) :
    ofUtf16? (unit :: units) = (ofUtf16? units).map (Char.ofNat unit.toNat :: ·) := by
  rw [ofUtf16?.eq_def]
  simp only [hlow, hhigh, Bool.false_eq_true, if_false]

/-- A pair of surrogates is a character. -/
theorem ofUtf16?_pair {high low : UInt16} (hhigh : isHighSurrogate high.toNat = true)
    (hlow : isLowSurrogate low.toNat = true) (units : List UInt16) :
    ofUtf16? (high :: low :: units) =
      (ofUtf16? units).map (Char.ofNat (pairCode high.toNat low.toNat) :: ·) := by
  have hnot : isLowSurrogate high.toNat = false := by
    rw [isHighSurrogate_iff] at hhigh
    rw [← Bool.not_eq_true, isLowSurrogate_iff]
    omega
  rw [ofUtf16?.eq_def]
  simp only [hnot, hhigh, hlow, Bool.false_eq_true, if_false, if_true]

/-- A first surrogate without its partner is no text. -/
theorem ofUtf16?_alone {high : UInt16} (hhigh : isHighSurrogate high.toNat = true)
    {units : List UInt16} (h : ∀ low ∈ units.head?, isLowSurrogate low.toNat = false) :
    ofUtf16? (high :: units) = none := by
  rw [ofUtf16?.eq_def]
  cases units with
  | nil => simp only [hhigh, if_true, ite_self]
  | cons low units => simp only [hhigh, h low rfl, Bool.false_eq_true, if_true, if_false, ite_self]

/-- A second surrogate in front is no text. -/
theorem ofUtf16?_low {low : UInt16} (h : isLowSurrogate low.toNat = true) (units : List UInt16) :
    ofUtf16? (low :: units) = none := by
  rw [ofUtf16?.eq_def]
  exact if_pos h

/-- No character begins with a second surrogate. -/
theorem isLowSurrogate_head_utf16Char (c : Char) (units : List UInt16) :
    ∀ low ∈ (utf16Char c ++ units).head?, isLowSurrogate low.toNat = false := by
  have hc := toNat_bounds c
  intro low hlow
  rw [← Bool.not_eq_true, isLowSurrogate_iff]
  unfold utf16Char at hlow
  split at hlow
  · obtain rfl := Option.some.inj hlow
    rw [UInt16.toNat_ofNat']
    omega
  · obtain rfl := Option.some.inj hlow
    rw [UInt16.toNat_ofNat']
    omega

/-- The form of a character is read as the character. -/
theorem ofUtf16?_utf16Char (c : Char) (units : List UInt16) :
    ofUtf16? (utf16Char c ++ units) = (ofUtf16? units).map (c :: ·) := by
  have hc := toNat_bounds c
  unfold utf16Char
  split
  · have hunit : (UInt16.ofNat c.toNat).toNat = c.toNat := by
      rw [UInt16.toNat_ofNat']
      omega
    have hlow : isLowSurrogate (UInt16.ofNat c.toNat).toNat = false := by
      rw [hunit, ← Bool.not_eq_true, isLowSurrogate_iff]
      omega
    have hhigh : isHighSurrogate (UInt16.ofNat c.toNat).toNat = false := by
      rw [hunit, ← Bool.not_eq_true, isHighSurrogate_iff]
      omega
    have hsingle := ofUtf16?_single hlow hhigh units
    rwa [hunit, Char.ofNat_toNat] at hsingle
  · generalize hhigh : 0xD800 + (c.toNat - 0x10000) / 0x400 = high
    generalize hlow : 0xDC00 + (c.toNat - 0x10000) % 0x400 = low
    have hhighUnit : (UInt16.ofNat high).toNat = high := by
      rw [UInt16.toNat_ofNat']
      omega
    have hlowUnit : (UInt16.ofNat low).toNat = low := by
      rw [UInt16.toNat_ofNat']
      omega
    have hfirst : isHighSurrogate (UInt16.ofNat high).toNat = true := by
      rw [hhighUnit, isHighSurrogate_iff]
      omega
    have hsecond : isLowSurrogate (UInt16.ofNat low).toNat = true := by
      rw [hlowUnit, isLowSurrogate_iff]
      omega
    have hcode : pairCode high low = c.toNat := by
      unfold pairCode
      omega
    have hpair := ofUtf16?_pair hfirst hsecond units
    rwa [hhighUnit, hlowUnit, hcode, Char.ofNat_toNat] at hpair

/-- The form of a text is read as the text. -/
theorem ofUtf16?_utf16 (cs : List Char) : ofUtf16? (utf16 cs) = some cs := by
  induction cs with
  | nil => rfl
  | cons c cs ih => rw [utf16_cons, ofUtf16?_utf16Char, ih, Option.map_some]

/-- The form of the character that one unit stands for is that unit. -/
theorem utf16Char_single {unit : UInt16} (hlow : ¬ isLowSurrogate unit.toNat)
    (hhigh : ¬ isHighSurrogate unit.toNat) : utf16Char (Char.ofNat unit.toNat) = [unit] := by
  have hunit := unit.toNat_lt
  rw [isLowSurrogate_iff] at hlow
  rw [isHighSurrogate_iff] at hhigh
  have hchar := toNat_ofNat (n := unit.toNat) (by
    unfold Nat.isValidChar
    omega)
  rw [utf16Char_of_lt (by omega), hchar, UInt16.ofNat_toNat]

/-- The form of the character that a pair of surrogates stands for is that pair. -/
theorem utf16Char_pair {high low : UInt16} (hhigh : isHighSurrogate high.toNat)
    (hlow : isLowSurrogate low.toNat) :
    utf16Char (Char.ofNat (pairCode high.toNat low.toNat)) = [high, low] := by
  rw [isLowSurrogate_iff] at hlow
  rw [isHighSurrogate_iff] at hhigh
  have hchar := toNat_ofNat (n := pairCode high.toNat low.toNat) (by
    unfold Nat.isValidChar pairCode
    omega)
  have hfirst : 0xD800 + (pairCode high.toNat low.toNat - 0x10000) / 0x400 = high.toNat := by
    unfold pairCode
    omega
  have hsecond : 0xDC00 + (pairCode high.toNat low.toNat - 0x10000) % 0x400 = low.toNat := by
    unfold pairCode
    omega
  rw [utf16Char, if_neg (by rw [hchar]; unfold pairCode; omega), hchar, hfirst, hsecond,
    UInt16.ofNat_toNat, UInt16.ofNat_toNat]

/-- What units are read as has them as its form. -/
theorem utf16_of_ofUtf16? {units : List UInt16} {cs : List Char} (h : ofUtf16? units = some cs) :
    utf16 cs = units := by
  fun_induction ofUtf16? units generalizing cs with
  | case1 =>
    obtain rfl := Option.some.inj h
    rfl
  | case2 => cases h
  | case3 => cases h
  | case4 high hnot hhigh low units hlow ih =>
    obtain ⟨later, hlater, rfl⟩ := Option.map_eq_some_iff.mp h
    rw [utf16_cons, utf16Char_pair hhigh hlow, ih hlater]
    rfl
  | case5 => cases h
  | case6 unit units hlow hhigh ih =>
    obtain ⟨later, hlater, rfl⟩ := Option.map_eq_some_iff.mp h
    rw [utf16_cons, utf16Char_single hlow hhigh, ih hlater]
    rfl

/-- Units are read as a text if they are its form. -/
theorem ofUtf16?_eq_some_iff {units : List UInt16} {cs : List Char} :
    ofUtf16? units = some cs ↔ units = utf16 cs := by
  refine ⟨fun h => (utf16_of_ofUtf16? h).symm, ?_⟩
  rintro rfl
  exact ofUtf16?_utf16 cs

end HrPipeline.Text
