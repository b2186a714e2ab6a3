import HrPipeline.Proofs.Calendar.RoundTrip
import HrPipeline.Proofs.Json.WrittenText
import HrPipeline.Proofs.Uuid.RoundTrip
import HrPipeline.Uuid.Basic

/-!
# Written records are read back

A row of values is written as a map with one member for each field. After `k` of the members are
read, the first `k` slots are filled with the row's values and the others are still empty. If
fields have different names and the values are valid, the whole map therefore denotes the row.
-/

namespace HrPipeline.Json

open HrPipeline.Calendar HrPipeline.Text

/-- A value as a member of a map carries it. -/
def Kind.carried : (kind : Kind) → kind.Value → Option String
  | .text, s => some s
  | .optionalText, s? => s?
  | .uuid, id => some id.text
  | .instant, t => some t.text
  | .date, d => some d.text

/-- The values that are read back: dates and instants must be supported ones. -/
def Kind.Supports : (kind : Kind) → kind.Value → Prop
  | .text, _ | .optionalText, _ | .uuid, _ => True
  | .instant, t => t.Valid
  | .date, d => d.civil.Exists

/-- The members of a row in the order of the fields. -/
def Row.members : (fields : List Field) → Row fields → List (String × Option String)
  | [], _ => []
  | field :: fields, (value, row) =>
    (field.name, field.kind.carried value) :: Row.members fields row

/-- Every value of a row is read back. -/
def Row.Supported : (fields : List Field) → Row fields → Prop
  | [], _ => True
  | field :: fields, (value, row) => field.kind.Supports value ∧ Row.Supported fields row

/-- Slots with the first `k` values of a row. -/
def Slots.filled : (fields : List Field) → Row fields → Nat → Slots fields
  | [], _, _ => ()
  | _ :: fields, (_, row), 0 => (none, Slots.filled fields row 0)
  | _ :: fields, (value, row), k + 1 => (some value, Slots.filled fields row k)

/-- A text converted back. -/
private theorem readVia_written {α : Type} {expected : Expected}
    {convert : String → Except Mismatch α} {s : String} {value : α} (h : convert s = .ok value)
    (rest : Bytes) :
    readVia expected convert (encoded (writtenText s) ++ rest) = .ok (value, rest) := by
  unfold readVia
  simp only [readText_written, bind, Except.bind, h]

private theorem readUuid_written (id : Uuid) (rest : Bytes) :
    Kind.read .uuid (encoded (writtenText id.text) ++ rest) = .ok (id, rest) := by
  unfold Kind.read
  refine readVia_written ?_ rest
  rw [Uuid.text, String.toList_ofList, Uuid.read_written]
  rfl

private theorem readInstant_written {t : Instant} (h : t.Valid) (rest : Bytes) :
    Kind.read .instant (encoded (writtenText t.text) ++ rest) = .ok (t, rest) := by
  unfold Kind.read
  refine readVia_written ?_ rest
  rw [Instant.text, String.toList_ofList, Instant.read_written h]
  rfl

private theorem readDate_written {d : Date} (h : d.civil.Exists) (rest : Bytes) :
    Kind.read .date (encoded (writtenText d.text) ++ rest) = .ok (d, rest) := by
  unfold Kind.read
  refine readVia_written ?_ rest
  rw [Date.text, String.toList_ofList, Date.read_written h]
  rfl

/-- A written value is read back. -/
theorem Kind.read_carried {kind : Kind} {value : kind.Value} (h : kind.Supports value)
    (rest : Bytes) :
    kind.read (encoded (writtenValue (kind.carried value)) ++ rest) = .ok (value, rest) := by
  cases kind with
  | text => exact readText_written .text value rest
  | optionalText =>
    cases value with
    | none => rfl
    | some s =>
      show readOptional (encoded (writtenText s) ++ rest) = _
      have ht := readText_written .text s rest
      rw [encoded_writtenText] at ht ⊢
      show (readText .text _).map (fun r => (some r.1, r.2)) = _
      rw [ht]
      rfl
  | uuid => exact readUuid_written value rest
  | instant => exact readInstant_written h rest
  | date => exact readDate_written h rest

theorem Slots.filled_zero (fields : List Field) (row : Row fields) :
    Slots.filled fields row 0 = Slots.empty fields := by
  induction fields with
  | nil => rfl
  | cons field fields ih => exact congrArg (Prod.mk none) (ih row.2)

/-- Slots with all values of a row give the row. -/
theorem Slots.finish_filled {fields : List Field} (row : Row fields) :
    Slots.finish fields (Slots.filled fields row fields.length) = .ok row := by
  induction fields with
  | nil => rfl
  | cons field fields ih =>
    obtain ⟨value, row⟩ := row
    simp only [List.length_cons, Slots.filled, Slots.finish, Option.or, bind, Except.bind, ih]

theorem length_members {fields : List Field} (row : Row fields) :
    (Row.members fields row).length = fields.length := by
  induction fields with
  | nil => rfl
  | cons field fields ih => exact congrArg (· + 1) (ih row.2)

/-- A member has the name of a field. -/
private theorem name_mem {fields : List Field} {row : Row fields} {k : Nat}
    {member : String × Option String} (h : (Row.members fields row)[k]? = some member) :
    member.1 ∈ fields.map Field.name := by
  induction fields generalizing k with
  | nil => cases h
  | cons field fields ih =>
    cases k with
    | zero =>
      obtain rfl := Option.some.inj h
      exact List.mem_cons_self
    | succ k =>
      have hmember : (Row.members fields row.2)[k]? = some member := h
      exact List.mem_cons_of_mem _ (ih hmember)

/-- Reading the next member fills the next slot. -/
theorem Slots.read_filled {fields : List Field} (hnames : (fields.map Field.name).Nodup)
    {row : Row fields} (hrow : Row.Supported fields row) {k : Nat}
    {member : String × Option String} (h : (Row.members fields row)[k]? = some member)
    (rest : Bytes) :
    Slots.read fields (Slots.filled fields row k) member.1
        (colonMark :: (encoded (writtenValue member.2) ++ rest)) =
      .ok (Slots.filled fields row (k + 1), rest) := by
  induction fields generalizing k with
  | nil => cases h
  | cons field fields ih =>
    obtain ⟨value, row⟩ := row
    rw [List.map_cons, List.nodup_cons] at hnames
    cases k with
    | zero =>
      obtain rfl := Option.some.inj h
      have hcolon : ∀ bytes, colon (colonMark :: bytes) = .ok bytes := fun _ => rfl
      simp only [Slots.filled, Slots.read, if_true, bind, Except.bind, hcolon,
        Kind.read_carried hrow.1]
      rfl
    | succ k =>
      have hmember : (Row.members fields row)[k]? = some member := h
      have hne : ¬ field.name = member.1 := by
        intro heq
        exact hnames.1 (heq ▸ name_mem hmember)
      simp only [Slots.filled, Slots.read, if_neg hne, bind, Except.bind,
        ih hnames.2 hrow.2 hmember]

/-- A closing brace ends the members. -/
private theorem readMembers_close {fields : List Field} {first : Bool} {slots : Slots fields}
    {bytes rest : Bytes} (h : nextEntry closeBrace first bytes = .ok (.close rest)) :
    readMembers fields first slots bytes = .ok (slots, rest) := by
  rw [readMembers]
  split <;> simp_all

/-- A member is read into its slot before the members after it. -/
private theorem readMembers_more {fields : List Field} {first : Bool} {slots later : Slots fields}
    {bytes entry after rest : Bytes} {key : String}
    (he : nextEntry closeBrace first bytes = .ok (.more entry))
    (hk : readKey entry = .ok (key, after))
    (hs : Slots.read fields slots key after = .ok (later, rest)) :
    readMembers fields first slots bytes = readMembers fields false later rest := by
  rw [readMembers]
  split
  · simp_all
  · simp_all
  · next entry' he' =>
    obtain rfl : entry' = entry := by simp_all
    split
    · simp_all
    · next key' after' hk' =>
      obtain ⟨rfl, rfl⟩ : key' = key ∧ after' = after := by simp_all
      split
      · simp_all
      · next later' rest' hs' =>
        obtain ⟨rfl, rfl⟩ : later' = later ∧ rest' = rest := by simp_all
        rfl

/-- A written member is its key, a colon and its value. -/
private theorem encoded_writtenMember (member : String × Option String) (rest : Bytes) :
    encoded (writtenMember member) ++ rest =
      encoded (writtenText member.1) ++
        (colonMark :: (encoded (writtenValue member.2) ++ rest)) := by
  rw [writtenMember, encoded_append, List.append_assoc]
  rfl

private theorem nextEntry_comma (s : String) (rest : Bytes) :
    nextEntry closeBrace false (comma :: (encoded (writtenText s) ++ rest)) =
      .ok (.more (encoded (writtenText s) ++ rest)) := by
  rw [encoded_writtenText]
  rfl

private theorem nextEntry_first (s : String) (rest : Bytes) :
    nextEntry closeBrace true (encoded (writtenText s) ++ rest) =
      .ok (.more (encoded (writtenText s) ++ rest)) := by
  rw [encoded_writtenText]
  rfl

/-- Further members, each after its comma, fill the remaining slots. -/
private theorem readMembers_later {fields : List Field}
    (hnames : (fields.map Field.name).Nodup) {row : Row fields}
    (hrow : Row.Supported fields row) (rest : Bytes) (members : List (String × Option String)) :
    ∀ k, (Row.members fields row).drop k = members →
      readMembers fields false (Slots.filled fields row k)
          (encoded (members.flatMap fun member => ',' :: writtenMember member) ++
            closeBrace :: rest) =
        .ok (Slots.filled fields row (k + members.length), rest) := by
  induction members with
  | nil =>
    intro k _
    exact readMembers_close rfl
  | cons member members ih =>
    intro k h
    have hmember : (Row.members fields row)[k]? = some member := by
      rw [← List.head?_drop, h]
      rfl
    have hlater : (Row.members fields row).drop (k + 1) = members := by
      rw [← List.drop_drop, h]
      rfl
    have hbytes : encoded ((member :: members).flatMap fun member => ',' :: writtenMember member) ++
        closeBrace :: rest = comma :: (encoded (writtenMember member) ++
          (encoded (members.flatMap fun member => ',' :: writtenMember member) ++
            closeBrace :: rest)) := by
      rw [List.flatMap_cons, encoded_append, List.append_assoc]
      rfl
    rw [hbytes, encoded_writtenMember]
    rw [readMembers_more (nextEntry_comma member.1 _) (readKey_written member.1 _)
      (Slots.read_filled hnames hrow hmember _), ih (k + 1) hlater,
      List.length_cons, Nat.add_assoc, Nat.add_comm 1]

/-- Members with commas between them: each but the first one comes after its comma. -/
private theorem intercalate_writtenMember (member : String × Option String)
    (members : List (String × Option String)) :
    [','].intercalate ((member :: members).map writtenMember) =
      writtenMember member ++ members.flatMap fun member => ',' :: writtenMember member := by
  induction members generalizing member with
  | nil => simp
  | cons next members ih =>
    have h := ih next
    rw [List.map_cons] at h
    rw [List.map_cons, List.map_cons, List.intercalate_cons_cons, h, List.flatMap_cons,
      List.append_assoc]
    rfl

/-- All members fill all slots. -/
private theorem readMembers_written {fields : List Field}
    (hnames : (fields.map Field.name).Nodup) {row : Row fields}
    (hrow : Row.Supported fields row) (rest : Bytes) :
    readMembers fields true (Slots.empty fields)
        (encoded ([','].intercalate ((Row.members fields row).map writtenMember)) ++
          closeBrace :: rest) =
      .ok (Slots.filled fields row fields.length, rest) := by
  rw [← Slots.filled_zero fields row, ← length_members row]
  cases hm : Row.members fields row with
  | nil => exact readMembers_close rfl
  | cons member members =>
    have hmember : (Row.members fields row)[0]? = some member := by
      rw [hm]
      rfl
    have hlater : (Row.members fields row).drop 1 = members := by
      rw [hm]
      rfl
    rw [intercalate_writtenMember, encoded_append, List.append_assoc, encoded_writtenMember,
      readMembers_more (nextEntry_first member.1 _) (readKey_written member.1 _)
        (Slots.read_filled hnames hrow hmember _),
      readMembers_later hnames hrow rest members 1 hlater, List.length_cons, Nat.add_comm 1]

/-- A written row of supported values is read back, and what follows it is left. -/
theorem Shape.read_written {shape : Shape} (hnames : (shape.fields.map Field.name).Nodup)
    {row : Row shape.fields} (hrow : Row.Supported shape.fields row) (rest : Bytes) :
    shape.read (utf8 (mapText (Row.members shape.fields row)) ++ rest) = .ok (row, rest) := by
  have hbytes : utf8 (mapText (Row.members shape.fields row)) ++ rest = openBrace ::
      (encoded ([','].intercalate ((Row.members shape.fields row).map writtenMember)) ++
        closeBrace :: rest) := by
    rw [mapText, utf8_ofList, writtenMap, encoded_cons, encoded_append, List.append_assoc,
      List.append_assoc]
    rfl
  have hspace : ∀ bytes, skipSpace (openBrace :: bytes) = openBrace :: bytes := fun _ => rfl
  unfold Shape.read
  simp only [hbytes, hspace, if_true, bind, Except.bind, readMembers_written hnames hrow,
    Slots.finish_filled]

/-- A written row of supported values denotes the row. -/
theorem Shape.decode_written {shape : Shape} (hnames : (shape.fields.map Field.name).Nodup)
    {row : Row shape.fields} (hrow : Row.Supported shape.fields row) :
    shape.decode (utf8 (mapText (Row.members shape.fields row))) = .ok row := by
  have hread := Shape.read_written hnames hrow []
  rw [List.append_nil] at hread
  unfold Shape.decode
  simp only [hread, bind, Except.bind]
  rfl

end HrPipeline.Json
