import HrPipeline.Proofs.Text.Utf16

/-!
# The grammar of JSON texts

A value is a tree, and a text spells it if the grammar derives the text: blanks may stand around
every value and every name, a character of a string may be written itself or as an escape, and maps
may hold several members of one name. Strings and names are kept as UTF-16 units, because an escape
may be a surrogate without its partner; such a string is well-formed and yet no text.
-/

namespace HrPipeline.Json

open HrPipeline.Text

/-- A JSON value. Of a number only its digits are kept. -/
inductive Value where
  | null
  | boolean (value : Bool)
  | number (digits : Bytes)
  | string (units : List UInt16)
  | sequence (items : List Value)
  | map (members : List (List UInt16 × Value))

/-- The string value of a text. -/
def Value.ofText (s : String) : Value := .string (utf16 s.toList)

/-- The map value with these members, whose names are texts. -/
def Value.ofMembers (members : List (String × Value)) : Value :=
  .map (members.map fun member => (utf16 member.1.toList, member.2))

/-- Any number of blanks. -/
def Blank (bytes : Bytes) : Prop := ∀ b ∈ bytes, isSpace b = true

theorem blank_nil : Blank [] := by simp [Blank]

/-- The letters of the short escapes, each with the character it stands for. -/
def escapeLetters : List (Char × Char) :=
  [('"', '"'), ('\\', '\\'), ('/', '/'), ('b', '\x08'), ('f', '\x0c'), ('n', '\n'), ('r', '\r'),
    ('t', '\t')]

/-- A character or an escape in a string, with the units it stands for. -/
inductive Piece : List UInt16 → Bytes → Prop where
  /-- A character that is neither a control character nor one of the two marks. -/
  | plain {c : Char} : c ≠ '"' → c ≠ '\\' → 0x20 ≤ c.toNat →
    Piece (utf16Char c) (String.utf8EncodeChar c)
  /-- A short escape. -/
  | short {letter c : Char} : (letter, c) ∈ escapeLetters →
    Piece (utf16Char c) [backslash, UInt8.ofNat letter.toNat]
  /-- The letter `u` with four hexadecimal digits in either case. -/
  | unit {a b c d : UInt8} {w x y z : Nat} : hexValue? a.toNat = some w →
    hexValue? b.toNat = some x → hexValue? c.toNat = some y → hexValue? d.toNat = some z →
    Piece [UInt16.ofNat (((w * 16 + x) * 16 + y) * 16 + z)] [backslash, 0x75, a, b, c, d]

/-- What stands between the quotes of a string. -/
inductive Content : List UInt16 → Bytes → Prop where
  | nil : Content [] []
  | cons {units later : List UInt16} {piece bytes : Bytes} : Piece units piece →
    Content later bytes → Content (units ++ later) (piece ++ bytes)

/-- Characters that need no escape may stand for themselves. -/
theorem Content.plain {cs : List Char} (h : ∀ c ∈ cs, c ≠ '"' ∧ c ≠ '\\' ∧ 0x20 ≤ c.toNat) :
    Content (utf16 cs) (encoded cs) := by
  induction cs with
  | nil => exact .nil
  | cons c cs ih =>
    obtain ⟨hquote, hslash, hcontrol⟩ := h c List.mem_cons_self
    exact .cons (.plain hquote hslash hcontrol) (ih fun d hd => h d (List.mem_cons_of_mem c hd))

/-- One or more digits. -/
def Digits (bytes : Bytes) : Prop := bytes ≠ [] ∧ ∀ b ∈ bytes, isDigit b = true

/-- The digits before the point; a zero in front stands alone. -/
def Whole (bytes : Bytes) : Prop := Digits bytes ∧ (bytes.head? = some 0x30 → bytes = [0x30])

/-- The point and the digits after it, if there are any. -/
inductive Fraction : Bytes → Prop where
  | none : Fraction []
  | some {digits : Bytes} : Digits digits → Fraction (0x2E :: digits)

/-- The letter `e` of either case with a power of ten, if there is one. -/
inductive Exponent : Bytes → Prop where
  | none : Exponent []
  | some {letter : UInt8} {sign digits : Bytes} : letter = 0x65 ∨ letter = 0x45 →
    sign ∈ [[], [0x2B], [0x2D]] → Digits digits → Exponent (letter :: (sign ++ digits))

/-- A number, with a minus in front or without. -/
inductive Numeral : Bytes → Prop where
  | positive {whole fraction exponent : Bytes} : Whole whole → Fraction fraction →
    Exponent exponent → Numeral (whole ++ (fraction ++ exponent))
  | negative {whole fraction exponent : Bytes} : Whole whole → Fraction fraction →
    Exponent exponent → Numeral (0x2D :: (whole ++ (fraction ++ exponent)))

/-- What a part of a JSON text stands for. -/
inductive Phrase where
  /-- A value. -/
  | value (v : Value)
  /-- A value with blanks around it. -/
  | element (v : Value)
  /-- One or more values with commas between them. -/
  | elements (items : List Value)
  /-- A name, a colon and a value. -/
  | member (name : List UInt16) (v : Value)
  /-- One or more members with commas between them. -/
  | members (members : List (List UInt16 × Value))

/-- The bytes spell the phrase. -/
inductive Spells : Phrase → Bytes → Prop where
  | null : Spells (.value .null) (utf8 "null")
  | boolean (value : Bool) :
    Spells (.value (.boolean value)) (utf8 (if value then "true" else "false"))
  | number {digits : Bytes} : Numeral digits → Spells (.value (.number digits)) digits
  | string {units : List UInt16} {bytes : Bytes} : Content units bytes →
    Spells (.value (.string units)) (quoteMark :: (bytes ++ [quoteMark]))
  | noItems {blanks : Bytes} : Blank blanks →
    Spells (.value (.sequence [])) (openBracket :: (blanks ++ [closeBracket]))
  | sequence {items : List Value} {bytes : Bytes} : Spells (.elements items) bytes →
    Spells (.value (.sequence items)) (openBracket :: (bytes ++ [closeBracket]))
  | noMembers {blanks : Bytes} : Blank blanks →
    Spells (.value (.map [])) (openBrace :: (blanks ++ [closeBrace]))
  | map {members : List (List UInt16 × Value)} {bytes : Bytes} : Spells (.members members) bytes →
    Spells (.value (.map members)) (openBrace :: (bytes ++ [closeBrace]))
  | element {v : Value} {before bytes after : Bytes} : Blank before → Spells (.value v) bytes →
    Blank after → Spells (.element v) (before ++ (bytes ++ after))
  | lastItem {v : Value} {bytes : Bytes} : Spells (.element v) bytes → Spells (.elements [v]) bytes
  | item {v : Value} {items : List Value} {bytes later : Bytes} : Spells (.element v) bytes →
    Spells (.elements items) later → Spells (.elements (v :: items)) (bytes ++ comma :: later)
  | member {name : List UInt16} {v : Value} {before spelled after bytes : Bytes} : Blank before →
    Content name spelled → Blank after → Spells (.element v) bytes →
    Spells (.member name v)
      (before ++ quoteMark :: (spelled ++ quoteMark :: (after ++ colonMark :: bytes)))
  | lastMember {name : List UInt16} {v : Value} {bytes : Bytes} : Spells (.member name v) bytes →
    Spells (.members [(name, v)]) bytes
  | moreMembers {name : List UInt16} {v : Value} {members : List (List UInt16 × Value)}
    {bytes later : Bytes} : Spells (.member name v) bytes → Spells (.members members) later →
    Spells (.members ((name, v) :: members)) (bytes ++ comma :: later)

/-- A whole JSON text that spells a value. -/
def Document (v : Value) (bytes : Bytes) : Prop := Spells (.element v) bytes

/-! ## First bytes -/

/-- The bytes that a value may begin with. -/
def Value.Begins : Value → UInt8 → Prop
  | .null, b => b = 0x6E
  | .boolean _, b => b = 0x74 ∨ b = 0x66
  | .number _, b => b = 0x2D ∨ isDigit b = true
  | .string _, b => b = quoteMark
  | .sequence _, b => b = openBracket
  | .map _, b => b = openBrace

theorem utf8_null : utf8 "null" = 0x6E :: ull := by decide +kernel

theorem utf8_true : utf8 "true" = 0x74 :: rue := by decide +kernel

theorem utf8_false : utf8 "false" = 0x66 :: alse := by decide +kernel

/-- A value begins with a byte that tells its shape. -/
theorem Spells.begins {v : Value} {bytes : Bytes} (h : Spells (.value v) bytes) :
    ∃ b more, bytes = b :: more ∧ v.Begins b := by
  cases h with
  | null => exact ⟨_, _, utf8_null, rfl⟩
  | boolean value =>
    cases value with
    | true => exact ⟨_, _, utf8_true, .inl rfl⟩
    | false => exact ⟨_, _, utf8_false, .inr rfl⟩
  | number hnumeral =>
    cases hnumeral with
    | @positive whole _ _ hwhole =>
      obtain ⟨⟨hne, hdigits⟩, -⟩ := hwhole
      cases whole with
      | nil => exact absurd rfl hne
      | cons d whole => exact ⟨d, _, rfl, .inr (hdigits d List.mem_cons_self)⟩
    | negative => exact ⟨_, _, rfl, .inl rfl⟩
  | string => exact ⟨_, _, rfl, rfl⟩
  | noItems => exact ⟨_, _, rfl, rfl⟩
  | sequence => exact ⟨_, _, rfl, rfl⟩
  | noMembers => exact ⟨_, _, rfl, rfl⟩
  | map => exact ⟨_, _, rfl, rfl⟩

/-- A byte with which no value begins. -/
theorem Value.Begins.ne {v : Value} {b c : UInt8} (h : v.Begins b)
    (hc : c ∉ [0x6E, 0x74, 0x66, 0x2D, quoteMark, openBracket, openBrace])
    (hdigit : isDigit c = false) : b ≠ c := by
  rintro rfl
  simp only [List.mem_cons, List.not_mem_nil, or_false, not_or] at hc
  cases v with
  | null => exact hc.1 h
  | boolean => exact h.elim hc.2.1 hc.2.2.1
  | number => exact h.elim hc.2.2.2.1 fun hd => Bool.false_ne_true (hdigit.symm.trans hd)
  | string => exact hc.2.2.2.2.1 h
  | sequence => exact hc.2.2.2.2.2.1 h
  | map => exact hc.2.2.2.2.2.2 h

/-- No value begins with a blank. -/
theorem Value.Begins.not_isSpace {v : Value} {b : UInt8} (h : v.Begins b) : isSpace b = false := by
  have hb := h.ne (c := 0x20) (by decide) (by decide)
  have ht := h.ne (c := 0x09) (by decide) (by decide)
  have hf := h.ne (c := 0x0A) (by decide) (by decide)
  have hr := h.ne (c := 0x0D) (by decide) (by decide)
  simp only [isSpace, hb, ht, hf, hr, decide_false, Bool.or_self]

/-- Only strings begin with a quote. -/
theorem Value.Begins.string {v : Value} (h : v.Begins quoteMark) : ∃ units, v = .string units := by
  cases v with
  | string units => exact ⟨units, rfl⟩
  | _ =>
    simp only [Begins] at h
    exact absurd h (by decide)

/-- Only maps begin with a brace. -/
theorem Value.Begins.map {v : Value} (h : v.Begins openBrace) : ∃ members, v = .map members := by
  cases v with
  | map members => exact ⟨members, rfl⟩
  | _ =>
    simp only [Begins] at h
    exact absurd h (by decide)

/-- Only sequences begin with a bracket. -/
theorem Value.Begins.sequence {v : Value} (h : v.Begins openBracket) :
    ∃ items, v = .sequence items := by
  cases v with
  | sequence items => exact ⟨items, rfl⟩
  | _ =>
    simp only [Begins] at h
    exact absurd h (by decide)

/-- Only `null` begins with its letter. -/
theorem Value.Begins.null {v : Value} (h : v.Begins 0x6E) : v = .null := by
  cases v with
  | null => rfl
  | _ =>
    simp only [Begins] at h
    exact absurd h (by decide)

/-- Apart from blanks the bytes begin with one that is neither a comma nor a closing bracket. -/
def Opens (bytes : Bytes) : Prop :=
  ∃ blanks b more, Blank blanks ∧ bytes = blanks ++ b :: more ∧ isSpace b = false ∧
    b ≠ comma ∧ b ≠ closeBracket ∧ b ≠ closeBrace

theorem Opens.append {bytes : Bytes} (h : Opens bytes) (later : Bytes) :
    Opens (bytes ++ later) := by
  obtain ⟨blanks, b, more, hblanks, rfl, hb⟩ := h
  exact ⟨blanks, b, more ++ later, hblanks, by simp, hb⟩

theorem Opens.append_left {blanks bytes : Bytes} (hblanks : Blank blanks) (h : Opens bytes) :
    Opens (blanks ++ bytes) := by
  obtain ⟨before, b, more, hbefore, rfl, hb⟩ := h
  refine ⟨blanks ++ before, b, more, ?_, (List.append_assoc _ _ _).symm, hb⟩
  exact fun c hc => (List.mem_append.mp hc).elim (hblanks c) (hbefore c)

theorem Spells.opens_value {v : Value} {bytes : Bytes} (h : Spells (.value v) bytes) :
    Opens bytes := by
  obtain ⟨b, more, rfl, hb⟩ := h.begins
  exact ⟨[], b, more, blank_nil, rfl, hb.not_isSpace, hb.ne (by decide) (by decide),
    hb.ne (by decide) (by decide), hb.ne (by decide) (by decide)⟩

theorem Spells.opens_element {v : Value} {bytes : Bytes} (h : Spells (.element v) bytes) :
    Opens bytes := by
  cases h with
  | element hbefore hv _ => exact (hv.opens_value.append _).append_left hbefore

theorem Spells.opens_elements {items : List Value} {bytes : Bytes}
    (h : Spells (.elements items) bytes) : Opens bytes := by
  cases h with
  | lastItem hv => exact hv.opens_element
  | item hv _ => exact hv.opens_element.append _

theorem Spells.opens_member {name : List UInt16} {v : Value} {bytes : Bytes}
    (h : Spells (.member name v) bytes) : Opens bytes := by
  cases h with
  | member hbefore _ _ _ =>
    exact ⟨_, quoteMark, _, hbefore, rfl, by decide, by decide, by decide, by decide⟩

theorem Spells.opens_members {members : List (List UInt16 × Value)} {bytes : Bytes}
    (h : Spells (.members members) bytes) : Opens bytes := by
  cases h with
  | lastMember hmember => exact hmember.opens_member
  | moreMembers hmember _ => exact hmember.opens_member.append _

end HrPipeline.Json
