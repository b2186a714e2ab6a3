import HrPipeline.Json.Refusal
import HrPipeline.Text.Utf8

/-!
# Tokens of JSON texts

Reading of blanks, literals, strings and numbers from the front of a sequence of bytes. Each
reader gives what it read and the bytes after it; the lemmas `length_*` state that these are
never more than before.

A string whose content is used must decode to a text. A string that is only passed over needs
well-formed escapes, but neither paired surrogates nor valid UTF-8.
-/

namespace HrPipeline.Json

open HrPipeline.Text

/-- Bytes with a meaning in JSON texts. -/
abbrev quoteMark : UInt8 := 0x22

/-- The byte that opens an escape. -/
abbrev backslash : UInt8 := 0x5C

/-- The byte between items or members. -/
abbrev comma : UInt8 := 0x2C

/-- The byte between a key and its value. -/
abbrev colonMark : UInt8 := 0x3A

/-- The byte that opens a sequence. -/
abbrev openBracket : UInt8 := 0x5B

/-- The byte that closes a sequence. -/
abbrev closeBracket : UInt8 := 0x5D

/-- The byte that opens a map. -/
abbrev openBrace : UInt8 := 0x7B

/-- The byte that closes a map. -/
abbrev closeBrace : UInt8 := 0x7D

/-- Space, tab, line feed and carriage return. -/
def isSpace (b : UInt8) : Bool := b = 0x20 || b = 0x09 || b = 0x0A || b = 0x0D

/-- The bytes without the blanks at their front. -/
def skipSpace (bytes : Bytes) : Bytes := bytes.dropWhile isSpace

/-- Whether a byte is an ASCII digit. -/
def isDigit (b : UInt8) : Bool := 0x30 ≤ b && b ≤ 0x39

/-- The rest after the remaining letters of a literal. -/
def literal : Bytes → Bytes → Except Refusal Bytes
  | [], bytes => .ok bytes
  | _ :: _, [] => .error .unfinished
  | letter :: letters, b :: bytes =>
    if b = letter then literal letters bytes else .error .malformed

/-- The letters of `null` after the first. -/
def ull : Bytes := [0x75, 0x6C, 0x6C]

/-- The letters of `true` after the first. -/
def rue : Bytes := [0x72, 0x75, 0x65]

/-- The letters of `false` after the first. -/
def alse : Bytes := [0x61, 0x6C, 0x73, 0x65]

/-- The character that a one-letter escape stands for. -/
def simpleEscape? (b : UInt8) : Option UInt8 :=
  if b = 0x22 ∨ b = 0x5C ∨ b = 0x2F then some b
  else if b = 0x62 then some 0x08
  else if b = 0x66 then some 0x0C
  else if b = 0x6E then some 0x0A
  else if b = 0x72 then some 0x0D
  else if b = 0x74 then some 0x09
  else none

/-- The number that four hexadecimal digits at the front denote. -/
def hexUnit : Bytes → Except Refusal Nat
  | a :: b :: c :: d :: _ =>
    match hexValue? a.toNat, hexValue? b.toNat, hexValue? c.toNat, hexValue? d.toNat with
    | some w, some x, some y, some z => .ok (((w * 16 + x) * 16 + y) * 16 + z)
    | _, _, _, _ => .error .malformed
  | _ => .error .unfinished

/-- Whether a unit is the first of a surrogate pair. -/
def isHighSurrogate (n : Nat) : Bool := 0xD800 ≤ n && n ≤ 0xDBFF

/-- Whether a unit is the second of a surrogate pair. -/
def isLowSurrogate (n : Nat) : Bool := 0xDC00 ≤ n && n ≤ 0xDFFF

/-- The second unit of a surrogate pair, with the backslash and letter before it. -/
def lowSurrogate : Bytes → Except Refusal Nat
  | [] => .error .unfinished
  | b :: rest =>
    if b ≠ backslash then .error .malformed
    else match rest with
      | [] => .error .unfinished
      | u :: rest =>
        if u ≠ 0x75 then .error .malformed
        else do
          let low ← hexUnit rest
          if isLowSurrogate low then .ok low else .error .malformed

/-- What an escape stands for, and how many bytes it takes after its backslash. -/
def escape : Bytes → Except Refusal (Bytes × Nat)
  | [] => .error .unfinished
  | b :: rest =>
    match simpleEscape? b with
    | some c => .ok ([c], 1)
    | none =>
      if b ≠ 0x75 then .error .malformed
      else do
        let unit ← hexUnit rest
        if isLowSurrogate unit then .error .malformed
        else if isHighSurrogate unit then do
          let low ← lowSurrogate (rest.drop 4)
          let code := 0x10000 + (unit - 0xD800) * 0x400 + (low - 0xDC00)
          .ok (String.utf8EncodeChar (Char.ofNat code), 11)
        else .ok (String.utf8EncodeChar (Char.ofNat unit), 5)

/-- The content of a string up to its closing quote. The first `n` bytes belong to an escape
that was already read; `before` is the content so far, last byte first. -/
def content (before : Bytes) : Nat → Bytes → Except Refusal (Bytes × Bytes)
  | _, [] => .error .unfinished
  | n + 1, _ :: rest => content before n rest
  | 0, b :: rest =>
    if b = quoteMark then .ok (before.reverse, rest)
    else if b = backslash then
      match escape rest with
      | .error refusal => .error refusal
      | .ok (bytes, n) => content (bytes.reverse ++ before) n rest
    else if b < 0x20 then .error .malformed
    else content (b :: before) 0 rest

/-- The text of a string after its opening quote. -/
def text (bytes : Bytes) : Except Refusal (String × Bytes) := do
  let (inner, rest) ← content [] 0 bytes
  match ofUtf8? inner with
  | some s => .ok (s, rest)
  | none => .error .malformed

/-- How many bytes an escape takes after its backslash in a string that is passed over. -/
def skippedEscape : Bytes → Except Refusal Nat
  | [] => .error .unfinished
  | b :: rest =>
    if (simpleEscape? b).isSome then .ok 1
    else if b ≠ 0x75 then .error .malformed
    else do
      let _ ← hexUnit rest
      .ok 5

/-- The rest after a string that is passed over, from after its opening quote. The first `n`
bytes belong to an escape that was already read. -/
def skipText : Nat → Bytes → Except Refusal Bytes
  | _, [] => .error .unfinished
  | n + 1, _ :: rest => skipText n rest
  | 0, b :: rest =>
    if b = quoteMark then .ok rest
    else if b = backslash then
      match skippedEscape rest with
      | .error refusal => .error refusal
      | .ok n => skipText n rest
    else if b < 0x20 then .error .malformed
    else skipText 0 rest

/-- The rest after at least one digit. -/
def skipDigits (bytes : Bytes) : Except Refusal Bytes :=
  match bytes with
  | [] => .error .malformed
  | b :: rest => if isDigit b then .ok (rest.dropWhile isDigit) else .error .malformed

/-- The rest after an exponent, if there is one. -/
def skipExponent (bytes : Bytes) : Except Refusal Bytes :=
  match bytes with
  | [] => .ok []
  | b :: rest =>
    if b = 0x65 ∨ b = 0x45 then
      match rest with
      | [] => .error .malformed
      | s :: more => if s = 0x2B ∨ s = 0x2D then skipDigits more else skipDigits (s :: more)
    else .ok (b :: rest)

/-- The rest after a number without its sign that is passed over. -/
def skipNumber (bytes : Bytes) : Except Refusal Bytes := do
  let rest ← skipDigits bytes
  if bytes.head? = some 0x30 ∧ rest.length + 1 < bytes.length then .error .malformed
  else match rest with
    | [] => .ok []
    | b :: more => if b = 0x2E then skipDigits more >>= skipExponent else skipExponent (b :: more)

/-- Skipping blanks leaves no more bytes than before. -/
theorem length_skipSpace (bytes : Bytes) : (skipSpace bytes).length ≤ bytes.length :=
  (List.dropWhile_sublist _).length_le

/-- A literal leaves no more bytes than before. -/
theorem length_literal {letters bytes rest : Bytes} (h : literal letters bytes = .ok rest) :
    rest.length ≤ bytes.length := by
  induction letters generalizing bytes with
  | nil => simp_all [literal]
  | cons letter letters ih =>
    cases bytes with
    | nil => simp [literal] at h
    | cons b bytes =>
      unfold literal at h
      split at h
      · have := ih h
        simp only [List.length_cons]
        omega
      · simp at h

/-- The content of a string leaves fewer bytes than before. -/
theorem length_content {before bytes inner rest : Bytes} {n : Nat}
    (h : content before n bytes = .ok (inner, rest)) : rest.length < bytes.length := by
  induction bytes generalizing before n with
  | nil => cases n <;> simp [content] at h
  | cons b bytes ih =>
    simp only [List.length_cons]
    cases n with
    | succ n => have := ih h; omega
    | zero =>
      unfold content at h
      split at h
      · simp only [Except.ok.injEq, Prod.mk.injEq] at h
        rw [h.2]
        omega
      · split at h
        · split at h
          · simp at h
          · have := ih h; omega
        · split at h
          · simp at h
          · have := ih h; omega

/-- The text of a string leaves fewer bytes than before. -/
theorem length_text {bytes rest : Bytes} {s : String} (h : text bytes = .ok (s, rest)) :
    rest.length < bytes.length := by
  unfold text at h
  cases hc : content [] 0 bytes with
  | error refusal => simp [hc, bind, Except.bind] at h
  | ok pair =>
    obtain ⟨inner, after⟩ := pair
    have hl := length_content hc
    simp only [hc, bind, Except.bind] at h
    split at h
    · simp only [Except.ok.injEq, Prod.mk.injEq] at h
      rw [← h.2]; exact hl
    · simp at h

/-- A string that is passed over leaves fewer bytes than before. -/
theorem length_skipText {n : Nat} {bytes rest : Bytes} (h : skipText n bytes = .ok rest) :
    rest.length < bytes.length := by
  induction bytes generalizing n with
  | nil => cases n <;> simp [skipText] at h
  | cons b bytes ih =>
    simp only [List.length_cons]
    cases n with
    | succ n => have := ih h; omega
    | zero =>
      unfold skipText at h
      split at h
      · simp only [Except.ok.injEq] at h
        rw [h]
        omega
      · split at h
        · split at h
          · simp at h
          · have := ih h; omega
        · split at h
          · simp at h
          · have := ih h; omega

/-- Digits that are passed over leave fewer bytes than before. -/
theorem length_skipDigits {bytes rest : Bytes} (h : skipDigits bytes = .ok rest) :
    rest.length < bytes.length := by
  unfold skipDigits at h
  split at h
  · simp at h
  · split at h
    · simp only [Except.ok.injEq] at h
      have := (List.dropWhile_sublist isDigit (l := by assumption)).length_le
      subst h
      simp only [List.length_cons]
      omega
    · simp at h

/-- An exponent that is passed over leaves no more bytes than before. -/
theorem length_skipExponent {bytes rest : Bytes} (h : skipExponent bytes = .ok rest) :
    rest.length ≤ bytes.length := by
  unfold skipExponent at h
  split at h
  · simp_all
  · split at h
    · split at h
      · simp at h
      · split at h
        · have := length_skipDigits h; simp only [List.length_cons]; omega
        · have := length_skipDigits h; simp only [List.length_cons] at *; omega
    · simp only [Except.ok.injEq] at h; subst h; simp

/-- A number that is passed over leaves fewer bytes than before. -/
theorem length_skipNumber {bytes rest : Bytes} (h : skipNumber bytes = .ok rest) :
    rest.length < bytes.length := by
  unfold skipNumber at h
  cases hd : skipDigits bytes with
  | error refusal => simp [hd, bind, Except.bind] at h
  | ok after =>
    have hl := length_skipDigits hd
    simp only [hd, bind, Except.bind] at h
    split at h
    · simp at h
    · cases after with
      | nil => simp_all
      | cons b more =>
        simp only [List.length_cons] at hl
        simp only at h
        split at h
        · cases hm : skipDigits more with
          | error refusal => simp [hm] at h
          | ok last =>
            simp only [hm] at h
            have h1 := length_skipDigits hm
            have h2 := length_skipExponent h
            omega
        · have := length_skipExponent h
          simp only [List.length_cons] at this
          omega

end HrPipeline.Json
