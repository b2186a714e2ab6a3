import HrPipeline.Json.Record
import HrPipeline.Json.Written
import HrPipeline.Proofs.Text.Digits
import HrPipeline.Proofs.Text.Utf8

/-!
# Written strings are read back

A written string is read character by character: an escape gives the character it stands for, and
any other character its own bytes. What follows the string is left as it is.
-/

namespace HrPipeline.Json

open HrPipeline.Text

/-- A byte that stands for itself inside a string. -/
def IsPlain (b : UInt8) : Prop := b ≠ quoteMark ∧ b ≠ backslash ∧ ¬ b < 0x20

theorem content_plain {b : UInt8} (h : IsPlain b) (before rest : Bytes) :
    content before 0 (b :: rest) = content (b :: before) 0 rest := by
  rw [content, if_neg h.1, if_neg h.2.1, if_neg h.2.2]

/-- Bytes that stand for themselves are passed on. -/
theorem content_append {bytes : Bytes} (h : ∀ b ∈ bytes, IsPlain b) (before rest : Bytes) :
    content before 0 (bytes ++ rest) = content (bytes.reverse ++ before) 0 rest := by
  induction bytes generalizing before with
  | nil => rfl
  | cons b bytes ih =>
    rw [List.cons_append, content_plain (h b List.mem_cons_self),
      ih fun c hc => h c (List.mem_cons_of_mem b hc), List.reverse_cons, List.append_assoc]
    rfl

/-- An escape of one letter stands for one byte. -/
theorem content_simpleEscape (letter : UInt8) {b : UInt8} (h : simpleEscape? letter = some b)
    (before rest : Bytes) :
    content before 0 (backslash :: letter :: rest) = content (b :: before) 0 rest := by
  have he : escape (letter :: rest) = .ok ([b], 1) := by
    rw [escape, h]
  rw [content, if_neg (by decide), if_pos rfl, he]
  rfl

/-- Four hexadecimal digits are read back. -/
theorem hexUnit_fixedHex {n : Nat} (h : n < 16 ^ 4) (rest : Bytes) :
    hexUnit (encoded (fixedHex 4 n) ++ rest) = .ok n := by
  have hdigit : ∀ m, m < 16 → String.utf8EncodeChar (Nat.digitChar m) =
      [UInt8.ofNat (Nat.digitChar m).toNat] ∧
      hexValue? (UInt8.ofNat (Nat.digitChar m).toNat).toNat = some m := by decide
  have hd : ∀ m, String.utf8EncodeChar (Nat.digitChar (m % 16)) =
      [UInt8.ofNat (Nat.digitChar (m % 16)).toNat] := fun m => (hdigit _ (by omega)).1
  have hv : ∀ m, hexValue? (UInt8.ofNat (Nat.digitChar (m % 16)).toNat).toNat = some (m % 16) :=
    fun m => (hdigit _ (by omega)).2
  simp only [fixedHex, List.nil_append, encoded_cons, encoded_nil, hd,
    List.append_nil, List.cons_append, hexUnit, hv]
  congr 1
  omega

/-- The bytes of an escape that was already read are passed over. -/
theorem content_skip (before : Bytes) {n : Nat} {bytes : Bytes} (h : bytes.length = n)
    (rest : Bytes) : content before n (bytes ++ rest) = content before 0 rest := by
  induction bytes generalizing n with
  | nil =>
    obtain rfl : 0 = n := h
    rfl
  | cons b bytes ih =>
    obtain rfl : bytes.length + 1 = n := h
    exact ih rfl

private theorem length_encoded_fixedHex (width n : Nat) :
    (encoded (fixedHex width n)).length = width := by
  rw [length_encoded, byteLength_eq_length, length_fixedHex]
  intro c hc
  obtain ⟨m, hm, rfl⟩ := exists_digitChar_of_mem_fixedHex hc
  have hsize : ∀ m < 16, (Nat.digitChar m).utf8Size = 1 := by decide
  exact hsize m hm

/-- The escape of a control character stands for it. -/
theorem content_controlEscape {c : Char} (h : c.toNat < 0x20) (before rest : Bytes) :
    content before 0 (encoded ('\\' :: 'u' :: fixedHex 4 c.toNat) ++ rest) =
      content ((String.utf8EncodeChar c).reverse ++ before) 0 rest := by
  have hbytes : encoded ('\\' :: 'u' :: fixedHex 4 c.toNat) ++ rest =
      backslash :: 0x75 :: (encoded (fixedHex 4 c.toNat) ++ rest) := rfl
  have hu : simpleEscape? 0x75 = none := rfl
  have hlow : isLowSurrogate c.toNat = false := by
    simp only [isLowSurrogate, Bool.and_eq_false_iff, decide_eq_false_iff_not]
    omega
  have hhigh : isHighSurrogate c.toNat = false := by
    simp only [isHighSurrogate, Bool.and_eq_false_iff, decide_eq_false_iff_not]
    omega
  have he : escape (0x75 :: (encoded (fixedHex 4 c.toNat) ++ rest)) =
      .ok (String.utf8EncodeChar c, 5) := by
    simp only [escape, hu, ne_eq, not_true_eq_false, if_false, bind, Except.bind,
      hexUnit_fixedHex (Nat.lt_trans h (by decide)) rest, hlow, hhigh, Bool.false_eq_true,
      Char.ofNat_toNat]
  rw [hbytes, content, if_neg (by decide), if_pos rfl, he]
  exact content_skip _ (length_encoded_fixedHex 4 c.toNat) rest

/-- The bytes of a character that needs no escape stand for themselves. -/
theorem isPlain_of_mem_utf8EncodeChar {c : Char} (hquote : c ≠ '"') (hslash : c ≠ '\\')
    (hcontrol : ¬ c.toNat < 0x20) {b : UInt8} (hb : b ∈ String.utf8EncodeChar c) : IsPlain b := by
  by_cases hascii : c.toNat < 128
  · rw [utf8EncodeChar_of_ascii hascii, List.mem_singleton] at hb
    have hvalue : b.toNat = c.toNat := by
      rw [hb, UInt8.toNat_ofNat']
      omega
    refine ⟨?_, ?_, ?_⟩
    · intro h
      refine hquote (Char.toNat_inj.mp ?_)
      rw [← hvalue, h]
      rfl
    · intro h
      refine hslash (Char.toNat_inj.mp ?_)
      rw [← hvalue, h]
      rfl
    · intro h
      rw [UInt8.lt_iff_toNat_lt, hvalue] at h
      exact hcontrol h
  · have hge := le_of_mem_utf8EncodeChar (Nat.not_lt.mp hascii) hb
    refine ⟨?_, ?_, ?_⟩
    · rintro rfl
      exact absurd hge (by decide)
    · rintro rfl
      exact absurd hge (by decide)
    · intro h
      rw [UInt8.lt_iff_toNat_lt] at h
      exact absurd (Nat.lt_of_le_of_lt hge h) (by decide)

/-- A written character is read back. -/
theorem content_writtenChar (c : Char) (before rest : Bytes) :
    content before 0 (encoded (writtenChar c) ++ rest) =
      content ((String.utf8EncodeChar c).reverse ++ before) 0 rest := by
  unfold writtenChar
  split
  · next h =>
    subst h
    exact content_simpleEscape 0x22 rfl before rest
  split
  · next h =>
    subst h
    exact content_simpleEscape 0x5C rfl before rest
  split
  · next h =>
    subst h
    exact content_simpleEscape 0x62 rfl before rest
  split
  · next h =>
    subst h
    exact content_simpleEscape 0x66 rfl before rest
  split
  · next h =>
    subst h
    exact content_simpleEscape 0x6E rfl before rest
  split
  · next h =>
    subst h
    exact content_simpleEscape 0x72 rfl before rest
  split
  · next h =>
    subst h
    exact content_simpleEscape 0x74 rfl before rest
  split
  · next h => exact content_controlEscape h before rest
  · next hquote hslash _ _ _ _ _ hcontrol =>
    rw [encoded_cons, encoded_nil, List.append_nil]
    exact content_append (fun b hb => isPlain_of_mem_utf8EncodeChar hquote hslash hcontrol hb)
      before rest

/-- Written characters are read back one after the other. -/
theorem content_written (cs : List Char) (before rest : Bytes) :
    content before 0 (encoded (cs.flatMap writtenChar) ++ rest) =
      content ((encoded cs).reverse ++ before) 0 rest := by
  induction cs generalizing before with
  | nil => rfl
  | cons c cs ih =>
    rw [List.flatMap_cons, encoded_append, List.append_assoc, content_writtenChar, ih,
      encoded_cons, List.reverse_append, List.append_assoc]

/-- A written string is read back after its opening quote. -/
theorem text_written (s : String) (rest : Bytes) :
    text (encoded (s.toList.flatMap writtenChar) ++ quoteMark :: rest) = .ok (s, rest) := by
  unfold text
  rw [content_written]
  simp only [content, List.append_nil, List.reverse_reverse, if_true, bind, Except.bind, ← utf8_eq,
    ofUtf8?_utf8]

theorem encoded_writtenText (s : String) (rest : Bytes) :
    encoded (writtenText s) ++ rest =
      quoteMark :: (encoded (s.toList.flatMap writtenChar) ++ quoteMark :: rest) := by
  unfold writtenText
  rw [encoded_cons, encoded_append, List.append_assoc, List.append_assoc]
  rfl

/-- A written string is read back as a value. -/
theorem readText_written (expected : Expected) (s : String) (rest : Bytes) :
    readText expected (encoded (writtenText s) ++ rest) = .ok (s, rest) := by
  rw [encoded_writtenText]
  exact text_written s rest

/-- A written string is read back as a key. -/
theorem readKey_written (s : String) (rest : Bytes) :
    readKey (encoded (writtenText s) ++ rest) = .ok (s, rest) := by
  rw [encoded_writtenText]
  exact text_written s rest

end HrPipeline.Json
