import HrPipeline.Proofs.Json.Passing

/-!
# Spelled values are read

A string is read as the text whose UTF-16 form its characters and escapes give, and it is refused
if they give none. A value of a kind is read from what the grammar spells exactly if the value is a
string that the kind takes; `Kind.of?` tells what it is then.
-/

namespace HrPipeline.Json

open HrPipeline.Calendar HrPipeline.Text

/-! ## Results without their refusals -/

theorem toOption_bind {ε α β : Type} (result : Except ε α) (f : α → Except ε β) :
    (result >>= f).toOption = result.toOption.bind fun a => (f a).toOption := by
  cases result <;> rfl

theorem toOption_map {ε α β : Type} (result : Except ε α) (f : α → β) :
    (result.map f).toOption = result.toOption.map f := by
  cases result <;> rfl

theorem toOption_mapError {ε δ α : Type} (result : Except ε α) (f : ε → δ) :
    (result.mapError f).toOption = result.toOption := by
  cases result <;> rfl

/-! ## Strings -/

theorem hexValue?_lt {code n : Nat} (h : hexValue? code = some n) : n < 16 := by
  unfold hexValue? at h
  split at h
  · obtain rfl := Option.some.inj h
    omega
  split at h
  · obtain rfl := Option.some.inj h
    omega
  split at h
  · obtain rfl := Option.some.inj h
    omega
  · cases h

/-- Four hexadecimal digits are a unit. -/
theorem toNat_unit {a b c d w x y z : Nat} (ha : hexValue? a = some w) (hb : hexValue? b = some x)
    (hc : hexValue? c = some y) (hd : hexValue? d = some z) :
    (UInt16.ofNat (((w * 16 + x) * 16 + y) * 16 + z)).toNat = ((w * 16 + x) * 16 + y) * 16 + z := by
  have hw := hexValue?_lt ha
  have hx := hexValue?_lt hb
  have hy := hexValue?_lt hc
  have hz := hexValue?_lt hd
  rw [UInt16.toNat_ofNat']
  omega

/-- What follows a first surrogate is either its partner, or it is refused and the surrogate has no
partner. -/
theorem lowSurrogate_content {units : List UInt16} {bytes : Bytes} (h : Content units bytes) :
    (∃ low later digits more, units = low :: later ∧ isLowSurrogate low.toNat = true ∧
      digits.length = 4 ∧ bytes = backslash :: 0x75 :: (digits ++ more) ∧ Content later more ∧
      ∀ rest, lowSurrogate (bytes ++ rest) = .ok low.toNat) ∨
    ((∀ rest, lowSurrogate (bytes ++ quoteMark :: rest) = .error .malformed) ∧
      ∀ low ∈ units.head?, isLowSurrogate low.toNat = false) := by
  cases h with
  | nil => exact .inr ⟨fun _ => rfl, nofun⟩
  | @cons _ later piece more hpiece hlater =>
    cases hpiece with
    | @plain c hquote hslash hcontrol =>
      refine .inr ⟨fun rest => ?_, isLowSurrogate_head_utf16Char c later⟩
      cases hbytes : String.utf8EncodeChar c with
      | nil => exact absurd hbytes String.utf8EncodeChar_ne_nil
      | cons b bytes =>
        have hb : b ∈ String.utf8EncodeChar c := hbytes ▸ List.mem_cons_self
        exact if_pos (isPlain_of_mem_utf8EncodeChar hquote hslash (Nat.not_lt.mpr hcontrol) hb).2.1
    | @short letter c hletter =>
      refine .inr ⟨fun rest => ?_, isLowSurrogate_head_utf16Char c later⟩
      have hu : ∀ p ∈ escapeLetters, UInt8.ofNat p.1.toNat ≠ 0x75 := by decide
      simp only [List.cons_append, List.nil_append, lowSurrogate, ne_eq, not_true_eq_false,
        if_false, hu _ hletter, not_false_eq_true, if_true]
    | @unit a b c d w x y z ha hb hc hd =>
      have hunit := toNat_unit ha hb hc hd
      have hread : ∀ rest, lowSurrogate (backslash :: 0x75 :: a :: b :: c :: d :: rest) =
          if isLowSurrogate (((w * 16 + x) * 16 + y) * 16 + z) then
            .ok (((w * 16 + x) * 16 + y) * 16 + z) else .error .malformed := by
        intro rest
        simp only [lowSurrogate, ne_eq, not_true_eq_false, if_false, hexUnit_digits ha hb hc hd,
          bind, Except.bind]
      rw [← hunit] at hread
      generalize UInt16.ofNat (((w * 16 + x) * 16 + y) * 16 + z) = unit at hread
      cases hlow : isLowSurrogate unit.toNat with
      | true =>
        refine .inl ⟨unit, later, [a, b, c, d], more, rfl, hlow, rfl, rfl, hlater, fun rest => ?_⟩
        exact (hread _).trans (if_pos hlow)
      | false =>
        refine .inr ⟨fun rest => (hread _).trans (if_neg (by simp [hlow])), ?_⟩
        intro low hhead
        obtain rfl := Option.some.inj hhead
        exact hlow

/-- An escape with a unit, in front of what follows it. -/
theorem escape_unit {a b c d : UInt8} {w x y z : Nat} (ha : hexValue? a.toNat = some w)
    (hb : hexValue? b.toNat = some x) (hc : hexValue? c.toNat = some y)
    (hd : hexValue? d.toNat = some z) {unit : Nat}
    (hunit : unit = ((w * 16 + x) * 16 + y) * 16 + z) (more : Bytes) :
    escape (0x75 :: a :: b :: c :: d :: more) =
      if isLowSurrogate unit then .error .malformed
      else if isHighSurrogate unit then
        (lowSurrogate more).map fun low =>
          (String.utf8EncodeChar (Char.ofNat (pairCode unit low)), 11)
      else .ok (String.utf8EncodeChar (Char.ofNat unit), 5) := by
  have hu : simpleEscape? 0x75 = none := rfl
  simp only [escape, hu, ne_eq, not_true_eq_false, if_false, hexUnit_digits ha hb hc hd, bind,
    Except.bind, hunit]
  refine ite_congr rfl (fun _ => rfl) fun _ => ite_congr rfl (fun _ => ?_) fun _ => rfl
  simp only [List.drop_succ_cons, List.drop_zero]
  cases lowSurrogate more <;> rfl

/-- An escape that is read gives its bytes, and the bytes it takes are passed over. -/
theorem content_escape (before taken rest : Bytes) {bytes : Bytes} {n : Nat}
    (h : escape (taken ++ rest) = .ok (bytes, n)) (hn : taken.length = n) :
    content before 0 (backslash :: (taken ++ rest)) = content (bytes.reverse ++ before) 0 rest := by
  rw [content, if_neg (by decide), if_pos rfl, h]
  exact content_skip _ hn rest

/-- An escape that is refused has its string refused. -/
theorem content_refused {rest : Bytes} {refusal : Refusal} (before : Bytes)
    (h : escape rest = .error refusal) :
    content before 0 (backslash :: rest) = .error refusal := by
  rw [content, if_neg (by decide), if_pos rfl, h]

/-- How a string goes on, for its units as well as for its reader. -/
inductive Onward : List UInt16 → Bytes → Prop where
  /-- The string is at its end. -/
  | done : Onward [] []
  /-- A character comes next. -/
  | char {units later : List UInt16} {piece more : Bytes} (c : Char) : Content later more →
    0 < piece.length → ofUtf16? units = (ofUtf16? later).map (c :: ·) →
    (∀ before rest, content before 0 (piece ++ (more ++ quoteMark :: rest)) =
      content ((String.utf8EncodeChar c).reverse ++ before) 0 (more ++ quoteMark :: rest)) →
    Onward units (piece ++ more)
  /-- A surrogate without its partner comes next. -/
  | alone {units : List UInt16} {bytes : Bytes} : ofUtf16? units = none →
    (∀ before rest, content before 0 (bytes ++ quoteMark :: rest) = .error .malformed) →
    Onward units bytes

/-- An escape with a unit is a character, or one together with the next escape, or refused. -/
theorem onward_unit {a b c d : UInt8} {w x y z : Nat} (ha : hexValue? a.toNat = some w)
    (hb : hexValue? b.toNat = some x) (hc : hexValue? c.toNat = some y)
    (hd : hexValue? d.toNat = some z) {later : List UInt16} {more : Bytes}
    (hlater : Content later more) :
    Onward (UInt16.ofNat (((w * 16 + x) * 16 + y) * 16 + z) :: later)
      ([backslash, 0x75, a, b, c, d] ++ more) := by
  have hescape := escape_unit ha hb hc hd (toNat_unit ha hb hc hd)
  generalize UInt16.ofNat (((w * 16 + x) * 16 + y) * 16 + z) = unit at hescape
  cases hlow : isLowSurrogate unit.toNat with
  | true =>
    refine .alone (ofUtf16?_low hlow later) fun before rest => content_refused before ?_
    exact (hescape _).trans (if_pos hlow)
  | false =>
    simp only [hlow, Bool.false_eq_true, if_false] at hescape
    cases hhigh : isHighSurrogate unit.toNat with
    | false =>
      simp only [hhigh, Bool.false_eq_true, if_false] at hescape
      refine .char _ hlater (by simp) (ofUtf16?_single hlow hhigh later) fun before rest => ?_
      exact content_escape before [0x75, a, b, c, d] _ (hescape _) rfl
    | true =>
      simp only [hhigh, if_true] at hescape
      obtain ⟨low, last, digits, after, rfl, hpartner, hdigits, rfl, hlast, hnext⟩ |
        ⟨hnext, hnone⟩ := lowSurrogate_content hlater
      · have hbytes : [backslash, 0x75, a, b, c, d] ++ backslash :: 0x75 :: (digits ++ after) =
            backslash :: (0x75 :: a :: b :: c :: d :: backslash :: 0x75 :: digits) ++ after := by
          simp
        rw [hbytes]
        refine .char _ hlast (by simp) (ofUtf16?_pair hhigh hpartner last) fun before rest => ?_
        have hread := hescape (backslash :: 0x75 :: (digits ++ after) ++ quoteMark :: rest)
        rw [hnext] at hread
        refine content_escape before (0x75 :: a :: b :: c :: d :: backslash :: 0x75 :: digits) _
          ?_ (congrArg (· + 7) hdigits)
        simpa [Except.map] using hread
      · refine .alone (ofUtf16?_alone hhigh hnone) fun before rest => content_refused before ?_
        have hread := hescape (more ++ quoteMark :: rest)
        rw [hnext] at hread
        exact hread

theorem Content.onward {units : List UInt16} {bytes : Bytes} (h : Content units bytes) :
    Onward units bytes := by
  cases h with
  | nil => exact .done
  | @cons _ later piece more hpiece hlater =>
    cases hpiece with
    | @plain c hquote hslash hcontrol =>
      refine .char c hlater (List.length_pos_iff.mpr String.utf8EncodeChar_ne_nil)
        (ofUtf16?_utf16Char c later) fun before rest => ?_
      exact content_append (fun b =>
        isPlain_of_mem_utf8EncodeChar hquote hslash (Nat.not_lt.mpr hcontrol)) before _
    | @short letter c hletter =>
      obtain ⟨b, hknown, hbytes⟩ := simpleEscape?_of_mem hletter
      refine .char c hlater (by simp) (ofUtf16?_utf16Char c later) fun before rest => ?_
      rw [hbytes]
      exact content_simpleEscape _ hknown before _
    | unit ha hb hc hd => exact onward_unit ha hb hc hd hlater

/-- The content of a string is read up to its closing quote, if its units have a text. -/
theorem content_spelled {units : List UInt16} {bytes : Bytes} (h : Content units bytes)
    (before rest : Bytes) :
    (content before 0 (bytes ++ quoteMark :: rest)).toOption =
      (ofUtf16? units).map fun cs => (before.reverse ++ encoded cs, rest) := by
  -- A pair of surrogates takes two escapes at once, so that the induction is on the length.
  induction hn : bytes.length using Nat.strongRecOn generalizing units bytes before with
  | ind n ih =>
    cases h.onward with
    | done =>
      rw [List.nil_append, content, if_pos rfl]
      simp [ofUtf16?, Except.toOption]
    | @char _ later piece more c hlater hpiece hunits hread =>
      rw [List.length_append] at hn
      rw [List.append_assoc, hread, ih more.length (by omega) hlater _ rfl, hunits,
        Option.map_map]
      congr 1
      funext cs
      simp
    | alone hunits hread =>
      rw [hread, hunits]
      rfl

/-- The text of a string is read after its opening quote, if its units have one. -/
theorem text_spelled {units : List UInt16} {bytes : Bytes} (h : Content units bytes)
    (rest : Bytes) :
    (text (bytes ++ quoteMark :: rest)).toOption =
      (ofUtf16? units).map fun cs => (String.ofList cs, rest) := by
  have hdecode : ∀ cs, ofUtf8? (encoded cs) = some (String.ofList cs) := by
    intro cs
    rw [← utf8_ofList]
    exact ofUtf8?_utf8 _
  rw [text, toOption_bind, content_spelled h, Option.bind_map]
  cases ofUtf16? units with
  | none => rfl
  | some cs =>
    simp only [Option.bind_some, Function.comp_apply, List.reverse_nil, List.nil_append, hdecode]
    rfl

/-! ## Values of a kind -/

/-- The text that a value is, if it is one. -/
def Value.text? : Value → Option String
  | .string units => (ofUtf16? units).map String.ofList
  | _ => none

/-- The value of a kind that a value stands for. -/
def Kind.of? : (kind : Kind) → Json.Value → Option kind.Value
  | .text, v => v.text?
  | .optionalText, .null => some none
  | .optionalText, v => v.text?.map some
  | .uuid, v => v.text?.bind fun s => (Uuid.read s.toList).toOption
  | .instant, v => v.text?.bind fun s => (Instant.read s.toList).toOption
  | .date, v => v.text?.bind fun s => (Date.read s.toList).toOption

section
variable {v : Json.Value} {bytes : Bytes}

theorem readText_spelled (expected : Expected) (h : Spells (.value v) bytes) (rest : Bytes) :
    (readText expected (bytes ++ rest)).toOption = v.text?.map fun s => (s, rest) := by
  obtain ⟨b, more, hbytes, hb⟩ := h.begins
  have hfirst : skipSpace (bytes ++ rest) = b :: (more ++ rest) := by
    rw [hbytes]
    exact skipSpace_cons hb.not_isSpace _
  rw [readText, hfirst]
  by_cases hquote : b = quoteMark
  · rw [hquote] at hb
    obtain ⟨units, rfl⟩ := hb.string
    cases h with
    | string hcontent =>
      obtain ⟨rfl, rfl⟩ := List.cons.inj hbytes
      simp only [if_true, List.append_assoc, List.singleton_append]
      rw [text_spelled hcontent, Value.text?, Option.map_map]
      rfl
  · have hnone : v.text? = none := by
      cases v with
      | string => exact absurd hb hquote
      | _ => rfl
    simp only [if_neg hquote, hnone]
    rfl

theorem readVia_spelled {α : Type} (expected : Expected) (convert : String → Except Mismatch α)
    (h : Spells (.value v) bytes) (rest : Bytes) :
    (readVia expected convert (bytes ++ rest)).toOption =
      (v.text?.bind fun s => (convert s).toOption).map fun value => (value, rest) := by
  rw [readVia, toOption_bind, readText_spelled expected h]
  cases v.text? with
  | none => rfl
  | some s =>
    simp only [Option.map_some, Option.bind_some]
    cases convert s <;> rfl

theorem readOptional_spelled (h : Spells (.value v) bytes) (rest : Bytes) :
    (readOptional (bytes ++ rest)).toOption =
      (Kind.of? .optionalText v).map fun value => (value, rest) := by
  obtain ⟨b, more, hbytes, hb⟩ := h.begins
  have hfirst : skipSpace (bytes ++ rest) = b :: (more ++ rest) := by
    rw [hbytes]
    exact skipSpace_cons hb.not_isSpace _
  rw [readOptional, hfirst]
  by_cases hnull : b = 0x6E
  · rw [hnull] at hb
    obtain rfl := hb.null
    cases h
    rw [utf8_null] at hbytes
    obtain ⟨-, rfl⟩ := List.cons.inj hbytes
    simp only [if_pos hnull, literal_append]
    rfl
  · have hvalue : Kind.of? .optionalText v = v.text?.map some := by
      cases v with
      | null => exact absurd hb hnull
      | _ => rfl
    simp only [if_neg hnull]
    rw [toOption_map, ← List.cons_append, ← hbytes, readText_spelled .text h, hvalue]
    cases v.text? <;> rfl

/-- A value of a kind is read if the value stands for one. -/
theorem Kind.read_spelled (kind : Kind) (h : Spells (.value v) bytes) (rest : Bytes) :
    (kind.read (bytes ++ rest)).toOption = (kind.of? v).map fun value => (value, rest) := by
  cases kind with
  | text => exact readText_spelled .text h rest
  | optionalText => exact readOptional_spelled h rest
  | uuid =>
    have hread := readVia_spelled .uuid (fun s => (Uuid.read s.toList).mapError .badUuid) h rest
    simp only [toOption_mapError] at hread
    exact hread
  | instant =>
    have hread :=
      readVia_spelled .instant (fun s => (Instant.read s.toList).mapError .badTime) h rest
    simp only [toOption_mapError] at hread
    exact hread
  | date =>
    have hread := readVia_spelled .date (fun s => (Date.read s.toList).mapError .badTime) h rest
    simp only [toOption_mapError] at hread
    exact hread

end

end HrPipeline.Json
