import HrPipeline.Proofs.Text.Digits
import HrPipeline.Proofs.Text.Utf8
import HrPipeline.Uuid.Reader

/-!
# Written identifiers are read back

The written form of an identifier has 36 characters, all of them hexadecimal digits but for the
four hyphens. It is wrapped in nothing, and its digits denote the identifier.
-/

namespace HrPipeline.Uuid

open HrPipeline.Text

/-- Every lower-case hexadecimal digit is an ASCII character that begins no wrapping. -/
private theorem digitChar_plain {n : Nat} (h : n < 16) :
    (Nat.digitChar n).utf8Size = 1 ∧ Nat.digitChar n ≠ '\x7b' ∧
      (Nat.digitChar n).toLower ≠ 'u' := by
  revert n
  decide

private theorem plain_of_mem_fixedHex {width n : Nat} {c : Char} (h : c ∈ fixedHex width n) :
    c.utf8Size = 1 ∧ c ≠ '\x7b' ∧ c.toLower ≠ 'u' := by
  obtain ⟨m, hm, rfl⟩ := exists_digitChar_of_mem_fixedHex h
  exact digitChar_plain hm

/-- The written form with its groups spelled out. -/
theorem written_eq (id : Uuid) :
    id.written = fixedHex 8 (id.bits.toNat / 16 ^ 24) ++ '-' ::
      (fixedHex 4 (id.bits.toNat / 16 ^ 20) ++ '-' ::
        (fixedHex 4 (id.bits.toNat / 16 ^ 16) ++ '-' ::
          (fixedHex 4 (id.bits.toNat / 16 ^ 12) ++ '-' :: fixedHex 12 id.bits.toNat))) := by
  simp [written, groups, List.intercalate]

theorem length_written (id : Uuid) : id.written.length = 36 := by
  simp [written_eq, length_fixedHex]

/-- Every character of the written form is a digit or a hyphen. -/
theorem mem_written {id : Uuid} {c : Char} (h : c ∈ id.written) :
    c = '-' ∨ ∃ m < 16, c = Nat.digitChar m := by
  rw [written_eq] at h
  simp only [List.mem_append, List.mem_cons] at h
  rcases h with h | rfl | h | rfl | h | rfl | h | rfl | h
  all_goals first | exact .inl rfl | exact .inr (exists_digitChar_of_mem_fixedHex h)

theorem utf8Size_of_mem_written {id : Uuid} {c : Char} (h : c ∈ id.written) :
    c.utf8Size = 1 := by
  rcases mem_written h with rfl | ⟨m, hm, rfl⟩
  · rfl
  · exact (digitChar_plain hm).1

theorem byteLength_written (id : Uuid) : byteLength id.written = 36 := by
  rw [byteLength_eq_length fun c hc => utf8Size_of_mem_written hc, length_written]

/-- The written form begins no wrapping. -/
private theorem unwrap_written (id : Uuid) : unwrap id.written = (.plain, id.written) := by
  obtain ⟨c, rest, hc⟩ : ∃ c rest, id.written = c :: rest := by
    cases h : id.written with
    | nil =>
      have hl := length_written id
      rw [h] at hl
      cases hl
    | cons c rest => exact ⟨c, rest, rfl⟩
  have hplain : c ≠ '\x7b' ∧ c.toLower ≠ 'u' := by
    have hl := length_fixedHex 8 (id.bits.toNat / 16 ^ 24)
    have hw := written_eq id
    cases hf : fixedHex 8 (id.bits.toNat / 16 ^ 24) with
    | nil =>
      rw [hf] at hl
      cases hl
    | cons d more =>
      rw [hf, hc] at hw
      obtain rfl : c = d := (List.cons.inj hw).1
      have hm : c ∈ fixedHex 8 (id.bits.toNat / 16 ^ 24) := by
        rw [hf]
        exact List.mem_cons_self
      exact (plain_of_mem_fixedHex hm).2
  unfold unwrap
  rw [hc, if_neg, if_neg]
  · intro h
    exact hplain.2 (List.cons.inj h).1
  · intro h
    exact hplain.1 (Option.some.inj h.1)

/-- The digits of groups of the regular lengths with hyphens between them. -/
private theorem ungrouped?_groups {a b c d e : List Char} (ha : a.length = 8) (hb : b.length = 4)
    (hc : c.length = 4) (hd : d.length = 4)
    (hs : byteLength (a ++ '-' :: (b ++ '-' :: (c ++ '-' :: (d ++ '-' :: e)))) = 36) :
    ungrouped? (a ++ '-' :: (b ++ '-' :: (c ++ '-' :: (d ++ '-' :: e)))) =
      some (a ++ b ++ c ++ d ++ e) := by
  unfold ungrouped?
  rw [if_pos]
  · simp (disch := omega) [List.drop_append, List.drop_of_length_le, ha, hb, hc, hd]
  · refine ⟨hs, ?_, ?_, ?_, ?_⟩ <;> simp [List.getElem?_append, ha, hb, hc, hd]

/-- The digits of an identifier denote it. -/
private theorem ofHex?_digits (id : Uuid) : ofHex? (fixedHex 32 id.bits.toNat) = some id := by
  obtain ⟨digits, hd, hn⟩ := exists_hexDigits 32 id.bits.toNat
  have hlt : id.bits.toNat < 16 ^ 32 := id.bits.isLt
  rw [Nat.mod_eq_of_lt hlt] at hn
  unfold ofHex?
  rw [hd, Option.map_some]
  have hbits : BitVec.ofNat 128 (digits.foldl (fun n d => 16 * n + d) 0) = id.bits := by
    show BitVec.ofNat 128 (ofHexDigits digits) = id.bits
    rw [hn, BitVec.ofNat_toNat, BitVec.setWidth_eq]
  rw [hbits]

/-- The written form of an identifier denotes it. -/
theorem read_written (id : Uuid) : read id.written = .ok id := by
  have hsubject : subject id.written = id.written := by
    unfold subject
    rw [unwrap_written]
  have hdigits : fixedHex 8 (id.bits.toNat / 16 ^ 24) ++ fixedHex 4 (id.bits.toNat / 16 ^ 20) ++
      fixedHex 4 (id.bits.toNat / 16 ^ 16) ++ fixedHex 4 (id.bits.toNat / 16 ^ 12) ++
      fixedHex 12 id.bits.toNat = fixedHex 32 id.bits.toNat := by
    have h20 := fixedHex_append 8 4 (id.bits.toNat / 16 ^ 20)
    have h16 := fixedHex_append 12 4 (id.bits.toNat / 16 ^ 16)
    have h12 := fixedHex_append 16 4 (id.bits.toNat / 16 ^ 12)
    have h0 := fixedHex_append 20 12 id.bits.toNat
    simp only [Nat.div_div_eq_div_mul, ← Nat.pow_add] at h20 h16 h12
    rw [h20, h16, h12, h0]
  have hparse : parse? id.written = some id := by
    unfold parse?
    rw [byteLength_written, if_neg (by decide), written_eq, ungrouped?_groups, Option.bind_some,
      hdigits, ofHex?_digits]
    · exact length_fixedHex _ _
    · exact length_fixedHex _ _
    · exact length_fixedHex _ _
    · exact length_fixedHex _ _
    · rw [← written_eq, byteLength_written]
  unfold read
  simp only [byteLength_written, hsubject, hparse]
  rfl

end HrPipeline.Uuid
