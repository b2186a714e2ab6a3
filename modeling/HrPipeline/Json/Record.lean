import HrPipeline.Json.Found
import HrPipeline.Json.Skip

/-!
# Records read from JSON

A `Shape` lists the fields of a record with the kinds of their values. A record is read either from
a map, whose members may come in any order and among unknown ones, or from a sequence with the
values in the order of the fields. `Shape.read` passes over the bytes once, and the first problem
it meets is the one it reports.
-/

namespace HrPipeline.Json

open HrPipeline.Calendar

/-- The kind of a field's value. -/
inductive Kind where
  | text
  | optionalText
  | uuid
  | instant
  | date
deriving DecidableEq

/-- The values of a kind. -/
def Kind.Value : Kind → Type
  | .text => String
  | .optionalText => Option String
  | .uuid => Uuid
  | .instant => Instant
  | .date => Date

/-- A named field of a record. -/
structure Field where
  name : String
  kind : Kind

/-- A named record with its fields in order. -/
structure Shape where
  name : String
  fields : List Field

/-- One value for each field. -/
def Row : List Field → Type
  | [] => Unit
  | field :: fields => field.kind.Value × Row fields

/-- The values read so far. -/
def Slots : List Field → Type
  | [] => Unit
  | field :: fields => Option field.kind.Value × Slots fields

/-- The text of a string value that is needed as `expected`. -/
def readText (expected : Expected) (bytes : Bytes) : Except Refusal (String × Bytes) :=
  match skipSpace bytes with
  | [] => .error .unfinished
  | b :: rest => if b = quoteMark then text rest else .error (wrongType expected (b :: rest))

/-- A string value, converted further. -/
def readVia {α : Type} (expected : Expected) (convert : String → Except Mismatch α)
    (bytes : Bytes) : Except Refusal (α × Bytes) := do
  let (s, rest) ← readText expected bytes
  match convert s with
  | .ok value => .ok (value, rest)
  | .error reason => .error (.mismatch none reason)

/-- A string value, or `null`. -/
def readOptional (bytes : Bytes) : Except Refusal (Option String × Bytes) :=
  match skipSpace bytes with
  | [] => .error .unfinished
  | b :: rest =>
    if b = 0x6E then (literal ull rest).map fun rest => (none, rest)
    else (readText .text (b :: rest)).map fun r => (some r.1, r.2)

/-- A value of a kind. -/
def Kind.read : (kind : Kind) → Bytes → Except Refusal (kind.Value × Bytes)
  | .text => readText .text
  | .optionalText => readOptional
  | .uuid => readVia .uuid fun s => (Uuid.read s.toList).mapError .badUuid
  | .instant => readVia .instant fun s => (Instant.read s.toList).mapError .badTime
  | .date => readVia .date fun s => (Date.read s.toList).mapError .badTime

/-- The value that a field takes when it is absent, if it may be. -/
def Kind.absent? : (kind : Kind) → Option kind.Value
  | .optionalText => some none
  | .text | .uuid | .instant | .date => none

/-- The rest after a colon. -/
def colon (bytes : Bytes) : Except Refusal Bytes :=
  match skipSpace bytes with
  | [] => .error .unfinished
  | b :: rest => if b = colonMark then .ok rest else .error .malformed

/-- Slots without any value. -/
def Slots.empty : (fields : List Field) → Slots fields
  | [] => ()
  | _ :: fields => (none, Slots.empty fields)

/-- Reads colon and value of the member with a key into its slot. A filled slot refuses the key
at once; a key without a slot has its value passed over. -/
def Slots.read : (fields : List Field) → Slots fields → String → Bytes →
    Except Refusal (Slots fields × Bytes)
  | [], slots, _, bytes => do
    let rest ← colon bytes
    let rest ← skipValue rest
    .ok (slots, rest)
  | field :: fields, (slot, slots), key, bytes =>
    if field.name = key then
      match slot with
      | some _ => .error (.mismatch none (.duplicateField key))
      | none => do
        let rest ← colon bytes
        let (value, rest) ← (field.kind.read rest).mapError (·.at (.field key))
        .ok ((some value, slots), rest)
    else do
      let (slots, rest) ← Slots.read fields slots key bytes
      .ok ((slot, slots), rest)

/-- The row of filled slots; the first field that is missing and may not be is reported. -/
def Slots.finish : (fields : List Field) → Slots fields → Except Refusal (Row fields)
  | [], _ => .ok ()
  | field :: fields, (slot, slots) => do
    let value ← match slot.or field.kind.absent? with
      | some value => .ok value
      | none => .error (.mismatch none (.missingField field.name))
    let row ← Slots.finish fields slots
    .ok (value, row)

/-- What follows between the brackets of a map or sequence. -/
inductive Turn where
  /-- The closing bracket, with the bytes after it. -/
  | close (rest : Bytes)
  /-- A further member or item, with the bytes it begins with. -/
  | more (rest : Bytes)

/-- Passes over the comma before all but the first entry, up to the entry or closing bracket. -/
def nextEntry (closing : UInt8) (first : Bool) (bytes : Bytes) : Except Refusal Turn :=
  match skipSpace bytes with
  | [] => .error .unfinished
  | b :: rest =>
    if b = closing then .ok (.close rest)
    else if first then .ok (.more (b :: rest))
    else if b = comma then
      match skipSpace rest with
      | [] => .error .unfinished
      | c :: after => if c = closing then .error .malformed else .ok (.more (c :: after))
    else .error .malformed

/-- A key after its opening quote. -/
def readKey : Bytes → Except Refusal (String × Bytes)
  | [] => .error .malformed
  | b :: rest => if b = quoteMark then text rest else .error .malformed

/-- A string value leaves fewer bytes than before. -/
theorem length_readText {expected : Expected} {bytes rest : Bytes} {s : String}
    (h : readText expected bytes = .ok (s, rest)) : rest.length < bytes.length := by
  have hl := length_skipSpace bytes
  unfold readText at h
  split at h
  · simp at h
  · rename_i hb
    rw [hb, List.length_cons] at hl
    split at h
    · have := length_text h
      omega
    · simp at h

/-- A converted string value leaves fewer bytes than before. -/
theorem length_readVia {α : Type} {expected : Expected} {convert : String → Except Mismatch α}
    {bytes rest : Bytes} {value : α} (h : readVia expected convert bytes = .ok (value, rest)) :
    rest.length < bytes.length := by
  unfold readVia at h
  cases ht : readText expected bytes with
  | error refusal => simp [ht, bind, Except.bind] at h
  | ok pair =>
    have hl := length_readText ht
    simp only [ht, bind, Except.bind] at h
    split at h
    · simp only [Except.ok.injEq, Prod.mk.injEq] at h
      rw [← h.2]
      exact hl
    · simp at h

/-- An optional string value leaves no more bytes than before. -/
theorem length_readOptional {bytes rest : Bytes} {value : Option String}
    (h : readOptional bytes = .ok (value, rest)) : rest.length ≤ bytes.length := by
  have hl := length_skipSpace bytes
  unfold readOptional at h
  split at h
  · simp at h
  · rename_i b after hb
    rw [hb, List.length_cons] at hl
    split at h
    · cases ht : literal ull after with
      | error refusal => simp [ht, Except.map] at h
      | ok last =>
        have := length_literal ht
        simp only [ht, Except.map, Except.ok.injEq, Prod.mk.injEq] at h
        rw [← h.2]
        omega
    · cases ht : readText .text (b :: after) with
      | error refusal => simp [ht, Except.map] at h
      | ok pair =>
        have := length_readText ht
        simp only [ht, Except.map, Except.ok.injEq, Prod.mk.injEq] at h
        rw [← h.2]
        simp only [List.length_cons] at this
        omega

/-- A value leaves no more bytes than before. -/
theorem length_kind_read {kind : Kind} {bytes rest : Bytes} {value : kind.Value}
    (h : kind.read bytes = .ok (value, rest)) : rest.length ≤ bytes.length := by
  cases kind with
  | text => exact Nat.le_of_lt (length_readText h)
  | optionalText => exact length_readOptional h
  | uuid =>
    unfold Kind.read at h
    exact Nat.le_of_lt (length_readVia h)
  | instant =>
    unfold Kind.read at h
    exact Nat.le_of_lt (length_readVia h)
  | date =>
    unfold Kind.read at h
    exact Nat.le_of_lt (length_readVia h)

/-- A colon leaves fewer bytes than before. -/
theorem length_colon {bytes rest : Bytes} (h : colon bytes = .ok rest) :
    rest.length < bytes.length := by
  have hl := length_skipSpace bytes
  unfold colon at h
  split at h
  · simp at h
  · rename_i hb
    rw [hb, List.length_cons] at hl
    split at h
    · simp only [Except.ok.injEq] at h
      rw [← h]
      omega
    · simp at h

private theorem ok_of_mapError {ε δ α : Type} {f : ε → δ} {result : Except ε α} {a : α}
    (h : result.mapError f = .ok a) : result = .ok a := by
  match result, h with
  | .ok _, h => exact congrArg Except.ok (Except.ok.inj h)

/-- A member leaves fewer bytes than before. -/
theorem length_slots_read {fields : List Field} {slots after : Slots fields} {key : String}
    {bytes rest : Bytes} (h : Slots.read fields slots key bytes = .ok (after, rest)) :
    rest.length < bytes.length := by
  induction fields generalizing rest with
  | nil =>
    rw [Slots.read] at h
    cases hc : colon bytes with
    | error refusal => simp [hc, bind, Except.bind] at h
    | ok value =>
      simp only [hc, bind, Except.bind] at h
      cases hs : skipValue value with
      | error refusal => simp [hs] at h
      | ok last =>
        have h1 := length_colon hc
        have h2 := length_skip hs
        simp only [hs, Except.ok.injEq, Prod.mk.injEq] at h
        rw [← h.2]
        omega
  | cons field fields ih =>
    obtain ⟨slot, slots⟩ := slots
    simp only [Slots.read] at h
    split at h
    · cases slot with
      | some value => simp at h
      | none =>
        cases hc : colon bytes with
        | error refusal => simp [hc, bind, Except.bind] at h
        | ok value =>
          simp only [hc, bind, Except.bind] at h
          cases hk : (field.kind.read value).mapError (·.at (.field key)) with
          | error refusal => simp [hk] at h
          | ok pair =>
            have h1 := length_colon hc
            have h2 := length_kind_read (ok_of_mapError hk)
            simp only [hk, Except.ok.injEq] at h
            rw [← (Prod.mk.inj h).2]
            omega
    · cases hr : Slots.read fields slots key bytes with
      | error refusal => simp [hr, bind, Except.bind] at h
      | ok pair =>
        obtain ⟨later, last⟩ := pair
        simp only [hr, bind, Except.bind, Except.ok.injEq] at h
        have := ih hr
        rw [← (Prod.mk.inj h).2]
        exact this

/-- A further entry begins with no more bytes than there were. -/
theorem length_nextEntry {closing : UInt8} {first : Bool} {bytes rest : Bytes}
    (h : nextEntry closing first bytes = .ok (.more rest)) : rest.length ≤ bytes.length := by
  have hl := length_skipSpace bytes
  unfold nextEntry at h
  split at h
  · simp at h
  · rename_i b after hb
    rw [hb] at hl
    split at h
    · simp at h
    · split at h
      · simp only [Except.ok.injEq, Turn.more.injEq] at h
        rw [← h]
        exact hl
      · split at h
        · have h2 := length_skipSpace after
          split at h
          · simp at h
          · rename_i hc
            rw [hc] at h2
            split at h
            · simp at h
            · simp only [Except.ok.injEq, Turn.more.injEq] at h
              rw [← h]
              simp only [List.length_cons] at hl h2 ⊢
              omega
        · simp at h

/-- A key leaves fewer bytes than before. -/
theorem length_readKey {bytes rest : Bytes} {key : String} (h : readKey bytes = .ok (key, rest)) :
    rest.length < bytes.length := by
  unfold readKey at h
  split at h
  · simp at h
  · split at h
    · have := length_text h
      simp only [List.length_cons]
      omega
    · simp at h

/-- The members of a map from after its opening brace, and the bytes after its closing brace. -/
def readMembers (fields : List Field) (first : Bool) (slots : Slots fields) (bytes : Bytes) :
    Except Refusal (Slots fields × Bytes) :=
  match _he : nextEntry closeBrace first bytes with
  | .error refusal => .error refusal
  | .ok (.close rest) => .ok (slots, rest)
  | .ok (.more entry) =>
    match _hk : readKey entry with
    | .error refusal => .error refusal
    | .ok (key, after) =>
      match _hs : Slots.read fields slots key after with
      | .error refusal => .error refusal
      | .ok (slots, rest) =>
        readMembers fields false slots rest
termination_by bytes.length
decreasing_by
  have h1 := length_nextEntry _he
  have h2 := length_readKey _hk
  have h3 := length_slots_read _hs
  omega

/-- The items of a sequence from the item with number `index` on. -/
def readItems (shape : Shape) : (fields : List Field) → Nat → Bytes →
    Except Refusal (Row fields × Bytes)
  | [], _, bytes => .ok ((), bytes)
  | field :: fields, index, bytes => do
    match ← nextEntry closeBracket (index = 0) bytes with
    | .close rest =>
      let value ← match field.kind.absent? with
        | some value => .ok value
        | none => .error (.mismatch none (.tooShort index shape.name shape.fields.length))
      let (row, rest) ← readItems shape fields (index + 1) (closeBracket :: rest)
      .ok ((value, row), rest)
    | .more entry =>
      let (value, rest) ← (field.kind.read entry).mapError (·.at (.item index))
      let (row, rest) ← readItems shape fields (index + 1) rest
      .ok ((value, row), rest)

/-- The rest after the closing bracket of a sequence whose items are all read. -/
def endItems (bytes : Bytes) : Except Refusal Bytes :=
  match skipSpace bytes with
  | [] => .error .unfinished
  | b :: rest => if b = closeBracket then .ok rest else .error .malformed

/-- A record at the front of a sequence of bytes, with the bytes after it. -/
def Shape.read (shape : Shape) (bytes : Bytes) : Except Refusal (Row shape.fields × Bytes) :=
  match skipSpace bytes with
  | [] => .error .unfinished
  | b :: rest =>
    if b = openBrace then do
      let (slots, rest) ← readMembers shape.fields true (Slots.empty shape.fields) rest
      let row ← Slots.finish shape.fields slots
      .ok (row, rest)
    else if b = openBracket then do
      let (row, rest) ← readItems shape shape.fields 0 rest
      let rest ← endItems rest
      .ok (row, rest)
    else .error (wrongType (.record shape.name) (b :: rest))

/-- The record that a whole sequence of bytes denotes; only blanks may follow it. -/
def Shape.decode (shape : Shape) (bytes : Bytes) : Except Refusal (Row shape.fields) := do
  let (row, rest) ← shape.read bytes
  if (skipSpace rest).isEmpty then .ok row else .error .malformed

end HrPipeline.Json
