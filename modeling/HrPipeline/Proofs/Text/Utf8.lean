import HrPipeline.Text.Utf8

/-!
# UTF-8 of single characters

The UTF-8 form of a text is that of its characters one after the other. An ASCII character is one
byte with its code; every byte of another character is greater than all of these.
-/

namespace HrPipeline.Text

/-- The character with a number has that number. -/
theorem toNat_ofNat {n : Nat} (h : n.isValidChar) : (Char.ofNat n).toNat = n := by
  unfold Char.ofNat
  rw [dif_pos h]
  rfl

/-- The UTF-8 form of a list of characters. -/
def encoded (cs : List Char) : Bytes := cs.flatMap String.utf8EncodeChar

@[simp] theorem encoded_nil : encoded [] = [] := rfl

@[simp] theorem encoded_cons (c : Char) (cs : List Char) :
    encoded (c :: cs) = String.utf8EncodeChar c ++ encoded cs := rfl

@[simp] theorem encoded_append (first second : List Char) :
    encoded (first ++ second) = encoded first ++ encoded second := List.flatMap_append

/-- The UTF-8 form of a text in terms of its characters. -/
theorem utf8_ofList (cs : List Char) : utf8 (String.ofList cs) = encoded cs := by
  show (cs.flatMap String.utf8EncodeChar).toByteArray.data.toList = _
  rw [List.data_toByteArray]
  rfl

theorem utf8_eq (s : String) : utf8 s = encoded s.toList := by
  rw [← utf8_ofList, String.ofList_toList]

/-- The number of bytes of a list of characters. -/
theorem length_encoded (cs : List Char) : (encoded cs).length = byteLength cs := by
  induction cs with
  | nil => rfl
  | cons c cs ih =>
    rw [encoded_cons, List.length_append, String.length_utf8EncodeChar, ih]
    rfl

/-- A text of characters of one byte each. -/
theorem byteLength_eq_length {cs : List Char} (h : ∀ c ∈ cs, c.utf8Size = 1) :
    byteLength cs = cs.length := by
  induction cs with
  | nil => rfl
  | cons c cs ih =>
    have hc := h c List.mem_cons_self
    have hcs := ih fun d hd => h d (List.mem_cons_of_mem c hd)
    show c.utf8Size + byteLength cs = cs.length + 1
    omega

/-- An ASCII character is one byte. -/
theorem utf8EncodeChar_of_ascii {c : Char} (h : c.toNat < 128) :
    String.utf8EncodeChar c = [UInt8.ofNat c.toNat] := by
  have hv : c.val.toNat ≤ 0x7f := Nat.le_of_lt_succ h
  simp only [String.utf8EncodeChar, if_pos hv]
  rfl

/-- So a list of ASCII characters has a byte for each. -/
theorem encoded_of_ascii {cs : List Char} (h : ∀ c ∈ cs, c.toNat < 128) :
    encoded cs = cs.map fun c => UInt8.ofNat c.toNat := by
  induction cs with
  | nil => rfl
  | cons c cs ih =>
    have hcs := ih fun d hd => h d (List.mem_cons_of_mem c hd)
    rw [encoded_cons, utf8EncodeChar_of_ascii (h c List.mem_cons_self), hcs]
    rfl

/-- The bytes of any other character are not ASCII. -/
theorem le_of_mem_utf8EncodeChar {c : Char} (h : 128 ≤ c.toNat) {b : UInt8}
    (hb : b ∈ String.utf8EncodeChar c) : 128 ≤ b.toNat := by
  have hv : ¬ c.val.toNat ≤ 0x7f := Nat.not_le.mpr h
  simp only [String.utf8EncodeChar, if_neg hv] at hb
  split at hb
  · simp only [List.mem_cons, List.not_mem_nil, or_false] at hb
    rcases hb with rfl | rfl <;> simp only [UInt8.toNat_ofNat'] <;> omega
  · split at hb <;> simp only [List.mem_cons, List.not_mem_nil, or_false] at hb
    · rcases hb with rfl | rfl | rfl <;> simp only [UInt8.toNat_ofNat'] <;> omega
    · rcases hb with rfl | rfl | rfl | rfl <;> simp only [UInt8.toNat_ofNat'] <;> omega

end HrPipeline.Text
