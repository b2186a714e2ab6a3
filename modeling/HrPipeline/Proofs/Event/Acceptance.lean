import HrPipeline.Proofs.Event.RoundTrip
import HrPipeline.Proofs.Json.SpelledRecord

/-!
# Which bodies are accepted

A body that is a well-formed JSON text denotes an event exactly if its members tell of one: each
field has one member, whose value is a string that the field takes, and only the correlation name
may be `null` or missing. Members of other names do not matter, nor does the order of the members.
A sequence denotes an event if it has one such value for each field.
-/

namespace HrPipeline

open HrPipeline.Calendar HrPipeline.Json HrPipeline.Text

/-! ## Values that fields take -/

namespace Json

/-- The value stands for this value of the kind. -/
def Kind.Takes : (kind : Kind) → Json.Value → kind.Value → Prop
  | .text, v, s => v = .ofText s
  | .optionalText, v, some s => v = .ofText s
  | .optionalText, v, none => v = .null
  | .uuid, v, id => ∃ s, v = .ofText s ∧ Uuid.read s.toList = .ok id
  | .instant, v, t => ∃ s, v = .ofText s ∧ Instant.read s.toList = .ok t
  | .date, v, d => ∃ s, v = .ofText s ∧ Date.read s.toList = .ok d

/-- The values are a single one, which stands for this value of the kind. -/
def Kind.TakesOnly (kind : Kind) (values : List Json.Value) (value : kind.Value) : Prop :=
  ∃ v, values = [v] ∧ kind.Takes v value

theorem Value.text?_eq_some_iff {v : Value} {s : String} : v.text? = some s ↔ v = .ofText s := by
  cases v with
  | string units =>
    rw [Value.text?, Option.map_eq_some_iff, Value.ofText, Value.string.injEq,
      ← ofUtf16?_eq_some_iff]
    constructor
    · rintro ⟨cs, hcs, rfl⟩
      rw [String.toList_ofList]
      exact hcs
    · exact fun h => ⟨s.toList, h, String.ofList_toList⟩
  | _ => simp [Value.text?, Value.ofText]

theorem toOption_eq_some_iff {ε α : Type} {result : Except ε α} {a : α} :
    result.toOption = some a ↔ result = .ok a := by
  cases result <;> simp [Except.toOption]

theorem Value.bind_text?_eq_some_iff {ε α : Type} {read : String → Except ε α} {v : Value}
    {a : α} : (v.text?.bind fun s => (read s).toOption) = some a ↔
      ∃ s, v = .ofText s ∧ read s = .ok a := by
  simp only [Option.bind_eq_some_iff, Value.text?_eq_some_iff, toOption_eq_some_iff]

theorem Value.map_text?_eq_some_iff {v : Value} {s : String} :
    v.text?.map some = some (some s) ↔ v = .ofText s := by
  rw [← Value.text?_eq_some_iff]
  cases v.text? <;> simp

/-- Reading tells which values stand for one of the kind. -/
theorem Kind.of?_eq_some_iff {kind : Kind} {v : Json.Value} {value : kind.Value} :
    kind.of? v = some value ↔ kind.Takes v value := by
  cases kind with
  | text => exact Value.text?_eq_some_iff
  | optionalText =>
    cases value with
    | none =>
      cases v with
      | null => exact ⟨fun _ => rfl, fun _ => rfl⟩
      | string units =>
        refine ⟨fun h => ?_, nofun⟩
        obtain ⟨_, _, hnone⟩ := Option.map_eq_some_iff.mp h
        cases hnone
      | _ => exact ⟨nofun, nofun⟩
    | some s =>
      cases v with
      | string units => exact Value.map_text?_eq_some_iff
      | _ => exact ⟨nofun, nofun⟩
  | uuid => exact Value.bind_text?_eq_some_iff
  | instant => exact Value.bind_text?_eq_some_iff
  | date => exact Value.bind_text?_eq_some_iff

/-- A field with these values has this value: the one they stand for, or the absent one if there
are none. -/
def Kind.Given (kind : Kind) (values : List Json.Value) (value : kind.Value) : Prop :=
  kind.TakesOnly values value ∨ values = [] ∧ kind.absent? = some value

theorem Kind.given?_eq_some_iff {kind : Kind} {values : List Json.Value} {value : kind.Value} :
    kind.given? values = some value ↔ kind.Given values value := by
  match values with
  | [] => simp [Kind.given?, Kind.Given, Kind.TakesOnly]
  | [v] => simp [Kind.given?, Kind.Given, Kind.TakesOnly, Kind.of?_eq_some_iff]
  | v :: w :: values => simp [Kind.given?, Kind.Given, Kind.TakesOnly]

/-- A field that may not be missing has a single value. -/
theorem Kind.given_required {kind : Kind} (h : kind.absent? = none) {values : List Json.Value}
    {value : kind.Value} : kind.Given values value ↔ kind.TakesOnly values value := by
  rw [Kind.Given, h]
  simp

/-- A text that may be missing has a single value, or the absent one. -/
theorem Kind.given_optional {values : List Json.Value} {value : Option String} :
    Kind.Given .optionalText values value ↔
      Kind.TakesOnly .optionalText values value ∨ values = [] ∧ value = none := by
  refine or_congr Iff.rfl (and_congr Iff.rfl ⟨fun h => ?_, ?_⟩)
  · exact (Option.some.inj h).symm
  · rintro rfl
    rfl

/-- In place of a missing value `null` may be written. -/
theorem Kind.Given.head {kind : Kind} {values : List Json.Value} {value : kind.Value}
    (h : kind.Given values value) : kind.Takes (values.headD .null) value := by
  obtain ⟨v, rfl, hv⟩ | ⟨rfl, habsent⟩ := h
  · exact hv
  · cases kind with
    | optionalText =>
      obtain rfl := Option.some.inj habsent
      rfl
    | _ => cases habsent

/-- The order of its values does not matter to a field: it takes one at most. -/
theorem Kind.given?_perm {kind : Kind} {first second : List Json.Value} (h : first.Perm second) :
    kind.given? first = kind.given? second := by
  match first with
  | [] => rw [h.nil_eq]
  | [v] => rw [List.singleton_perm.mp h]
  | v :: w :: values =>
    match second, h.length_eq with
    | _ :: _ :: _, _ => rfl

private theorem pair_eq_some_iff {α β : Type} {a? : Option α} {b? : Option β} {a : α} {b : β} :
    (a?.bind fun a => b?.map fun b => (a, b)) = some (a, b) ↔ a? = some a ∧ b? = some b := by
  cases a? <;> cases b? <;> simp

/-- The members give each field its value. -/
def Row.ToldBy (members : List (String × Value)) : (fields : List Field) → Row fields → Prop
  | [], _ => True
  | field :: fields, (value, row) =>
    field.kind.Given (valuesAt field.name members) value ∧ Row.ToldBy members fields row

/-- The items are one for each field, and each stands for the value of its field. -/
def Row.ListedBy : List Value → (fields : List Field) → Row fields → Prop
  | items, [], _ => items = []
  | items, field :: fields, (value, row) =>
    ∃ v later, items = v :: later ∧ field.kind.Takes v value ∧ Row.ListedBy later fields row

theorem Row.ofMembers?_eq_some_iff {members : List (String × Value)} {fields : List Field}
    {row : Row fields} :
    Row.ofMembers? members fields = some row ↔ Row.ToldBy members fields row := by
  induction fields with
  | nil => exact ⟨fun _ => trivial, fun _ => rfl⟩
  | cons field fields ih =>
    obtain ⟨value, row⟩ := row
    exact pair_eq_some_iff.trans (and_congr Kind.given?_eq_some_iff ih)

/-- Without any items there is a row only if the last field may be missing. -/
private theorem ofItems?_nil {field : Field} {fields : List Field}
    (hlast : ∀ last ∈ (field :: fields).getLast?, last.kind.absent? = none) :
    Row.ofItems? (field :: fields) [] = none := by
  induction fields generalizing field with
  | nil =>
    rw [Row.ofItems?, hlast field rfl]
    rfl
  | cons next fields ih =>
    rw [Row.ofItems?, ih hlast]
    cases field.kind.absent? <;> rfl

theorem Row.ofItems?_eq_some_iff {items : List Value} {fields : List Field} {row : Row fields}
    (hlast : ∀ last ∈ fields.getLast?, last.kind.absent? = none) :
    Row.ofItems? fields items = some row ↔ Row.ListedBy items fields row := by
  induction fields generalizing items with
  | nil =>
    cases items with
    | nil => exact ⟨fun _ => rfl, fun _ => rfl⟩
    | cons v items => exact ⟨nofun, nofun⟩
  | cons field fields ih =>
    obtain ⟨value, row⟩ := row
    cases items with
    | nil =>
      rw [ofItems?_nil hlast]
      exact ⟨nofun, nofun⟩
    | cons v items =>
      have hlater : ∀ last ∈ fields.getLast?, last.kind.absent? = none := by
        intro last hmem
        refine hlast last ?_
        rw [List.getLast?_cons, hmem]
        rfl
      refine pair_eq_some_iff.trans ((and_congr Kind.of?_eq_some_iff (ih hlater)).trans ?_)
      constructor
      · exact fun ⟨hv, hitems⟩ => ⟨v, items, rfl, hv, hitems⟩
      · rintro ⟨_, _, hcons, hv, hitems⟩
        obtain ⟨rfl, rfl⟩ := List.cons.inj hcons
        exact ⟨hv, hitems⟩

/-- The values of the fields, in their order, are items that list them. -/
theorem Row.ToldBy.listedBy {members : List (String × Value)} {fields : List Field}
    {row : Row fields} (h : Row.ToldBy members fields row) :
    Row.ListedBy (fields.map fun field => (valuesAt field.name members).headD .null)
      fields row := by
  induction fields with
  | nil => rfl
  | cons field fields ih => exact ⟨_, _, rfl, h.1.head, ih h.2⟩

/-- The row that members give depends only on the values of its fields. -/
theorem Row.ofMembers?_congr {fields : List Field} {first second : List (String × Value)}
    (h : ∀ field ∈ fields, (valuesAt field.name first).Perm (valuesAt field.name second)) :
    Row.ofMembers? first fields = Row.ofMembers? second fields := by
  induction fields with
  | nil => rfl
  | cons field fields ih =>
    rw [Row.ofMembers?, Row.ofMembers?, Kind.given?_perm (h field List.mem_cons_self),
      ih fun field hfield => h field (List.mem_cons_of_mem _ hfield)]

/-- The members with one of the names. -/
def named (names : List String) (members : List (String × Value)) : List (String × Value) :=
  members.filter fun member => member.1 ∈ names

theorem valuesAt_named {names : List String} {name : String} (h : name ∈ names)
    (members : List (String × Value)) :
    valuesAt name (named names members) = valuesAt name members := by
  rw [valuesAt, valuesAt, named, List.filter_filter]
  congr 1
  refine List.filter_congr fun member _ => ?_
  by_cases hname : member.1 = name
  · simp [hname, h]
  · simp [hname]

theorem valuesAt_perm {names : List String} {first second : List (String × Value)}
    (h : (named names first).Perm (named names second)) {name : String} (hname : name ∈ names) :
    (valuesAt name first).Perm (valuesAt name second) := by
  rw [← valuesAt_named hname, ← valuesAt_named hname second]
  exact (h.filter _).map _

end Json

/-! ## Events -/

/-- These members tell of the event: each field of the event has one value among them, and the
correlation name may also have none. -/
structure EmployeeCreated.ToldBy (event : EmployeeCreated) (members : List (String × Value)) :
    Prop where
  requestId : Kind.TakesOnly .optionalText (valuesAt "request_id" members) event.requestId ∨
    valuesAt "request_id" members = [] ∧ event.requestId = none
  eventType : Kind.TakesOnly .text (valuesAt "event_type" members) event.eventType
  employeeId : Kind.TakesOnly .uuid (valuesAt "employee_id" members) event.employeeId
  companyId : Kind.TakesOnly .uuid (valuesAt "company_id" members) event.companyId
  occurredAt : Kind.TakesOnly .instant (valuesAt "occurred_at" members) event.occurredAt

/-- These items list the fields of the event in their order. -/
inductive EmployeeCreated.ListedBy (event : EmployeeCreated) : List Value → Prop where
  | intro {requestId eventType employeeId companyId occurredAt : Value} :
    Kind.Takes .optionalText requestId event.requestId →
    Kind.Takes .text eventType event.eventType →
    Kind.Takes .uuid employeeId event.employeeId → Kind.Takes .uuid companyId event.companyId →
    Kind.Takes .instant occurredAt event.occurredAt →
    ListedBy event [requestId, eventType, employeeId, companyId, occurredAt]

/-- These members tell of the event: each field of the event has one value among them. -/
structure PayslipRequested.ToldBy (event : PayslipRequested) (members : List (String × Value)) :
    Prop where
  eventType : Kind.TakesOnly .text (valuesAt "event_type" members) event.eventType
  payrollId : Kind.TakesOnly .uuid (valuesAt "payroll_id" members) event.payrollId
  companyId : Kind.TakesOnly .uuid (valuesAt "company_id" members) event.companyId
  requestedBy : Kind.TakesOnly .uuid (valuesAt "requested_by" members) event.requestedBy
  occurredAt : Kind.TakesOnly .instant (valuesAt "occurred_at" members) event.occurredAt

/-- These items list the fields of the event in their order. -/
inductive PayslipRequested.ListedBy (event : PayslipRequested) : List Value → Prop where
  | intro {eventType payrollId companyId requestedBy occurredAt : Value} :
    Kind.Takes .text eventType event.eventType →
    Kind.Takes .uuid payrollId event.payrollId → Kind.Takes .uuid companyId event.companyId →
    Kind.Takes .uuid requestedBy event.requestedBy →
    Kind.Takes .instant occurredAt event.occurredAt →
    ListedBy event [eventType, payrollId, companyId, requestedBy, occurredAt]

namespace DomainEvent

/-- Bodies of a type of events whose fields have these names are accepted exactly as intended. -/
structure AcceptsExactly (ε : Type) [DomainEvent ε] (names : List String)
    (toldBy : List (String × Value) → ε → Prop) (listedBy : List Value → ε → Prop) : Prop where
  /-- A map denotes the event that its members tell of, and no other. -/
  map : ∀ {members body}, Document (.ofMembers members) body →
    ∀ event : ε, decode body = .ok event ↔ toldBy members event
  /-- Neither members of other names nor the order of the members make a difference. -/
  members : ∀ {first second firstBody secondBody}, Document (.ofMembers first) firstBody →
    Document (.ofMembers second) secondBody → (named names first).Perm (named names second) →
    (decode firstBody : Except Refusal ε).toOption = (decode secondBody).toOption
  /-- A sequence denotes the event whose fields its items list, and no other. -/
  sequence : ∀ {items body}, Document (.sequence items) body →
    ∀ event : ε, decode body = .ok event ↔ listedBy items event
  /-- Nothing else denotes an event. -/
  other : ∀ {v body}, Document v body → ∀ event : ε, decode body = .ok event →
    (∃ members, v = .ofMembers members) ∨ ∃ items, v = .sequence items
  /-- A map denotes what the sequence of its values denotes, with `null` for a missing one. -/
  inOrder : ∀ {members body sequenceBody}, Document (.ofMembers members) body →
    Document (.sequence (names.map fun name => (valuesAt name members).headD .null))
      sequenceBody →
    ∀ event : ε, decode body = .ok event → decode sequenceBody = .ok event

section
variable {ε : Type} [DomainEvent ε] {body : Bytes}

/-- The shape of the fields decides about a body. -/
theorem toOption_decode (body : Bytes) :
    (decode body : Except Refusal ε).toOption =
      ((shape ε).decode body).toOption.map ofRow := by
  rw [decode, toOption_map]

/-- A body denotes an event if it denotes the row of the event. -/
theorem decode_eq_ok_iff {event : ε} {row : Row (shape ε).fields}
    (hrow : ∀ other, ofRow other = event ↔ other = row) :
    decode body = .ok event ↔ ((shape ε).decode body).toOption = some row := by
  rw [← toOption_eq_some_iff, toOption_decode, Option.map_eq_some_iff]
  simp only [hrow]
  exact ⟨fun ⟨_, hother, h⟩ => h ▸ hother, fun h => ⟨row, h, rfl⟩⟩

end

/-- A type of events accepts exactly what its rows are told and listed by. -/
theorem acceptsExactly {ε : Type} [DomainEvent ε] {names : List String}
    {toldBy : List (String × Value) → ε → Prop} {listedBy : List Value → ε → Prop}
    (toRow : ε → Row (shape ε).fields)
    (hrow : ∀ event other, ofRow other = event ↔ other = toRow event)
    (hnames : (shape ε).fields.map Field.name = names) (hdifferent : names.Nodup)
    (hlast : ∀ last ∈ (shape ε).fields.getLast?, last.kind.absent? = none)
    (htold : ∀ members event,
      Row.ToldBy members (shape ε).fields (toRow event) ↔ toldBy members event)
    (hlisted : ∀ items event,
      Row.ListedBy items (shape ε).fields (toRow event) ↔ listedBy items event) :
    AcceptsExactly ε names toldBy listedBy := by
  subst hnames
  have hmap : ∀ {members body}, Document (.ofMembers members) body →
      ∀ event : ε, decode body = .ok event ↔ toldBy members event := by
    intro members body h event
    rw [decode_eq_ok_iff (hrow event), Shape.decode_ofMembers hdifferent h,
      Row.ofMembers?_eq_some_iff, htold]
  have hsequence : ∀ {items body}, Document (.sequence items) body →
      ∀ event : ε, decode body = .ok event ↔ listedBy items event := by
    intro items body h event
    rw [decode_eq_ok_iff (hrow event), Shape.decode_sequence h, Row.ofItems?_eq_some_iff hlast,
      hlisted]
  refine ⟨hmap, ?_, hsequence, ?_, ?_⟩
  · intro first second firstBody secondBody hfirst hsecond hperm
    rw [toOption_decode, toOption_decode, Shape.decode_ofMembers hdifferent hfirst,
      Shape.decode_ofMembers hdifferent hsecond, Row.ofMembers?_congr]
    exact fun field hfield => valuesAt_perm hperm (List.mem_map_of_mem hfield)
  · intro v body h event hdecode
    have hshape := (decode_eq_ok_iff (hrow event)).mp hdecode
    exact Shape.decode_document h (toOption_eq_some_iff.mp hshape)
  · intro members body sequenceBody h hlist event hdecode
    rw [List.map_map] at hlist
    have hinOrder := ((htold members event).mpr ((hmap h event).mp hdecode)).listedBy
    exact (hsequence hlist event).mpr ((hlisted _ event).mp hinOrder)

end DomainEvent

/-- The members give a new employee's event its fields. -/
theorem EmployeeCreated.toldBy_iff (members : List (String × Value)) (event : EmployeeCreated) :
    Row.ToldBy members (DomainEvent.shape EmployeeCreated).fields event.row ↔
      event.ToldBy members := by
  constructor
  · rintro ⟨hrequestId, heventType, hemployeeId, hcompanyId, hoccurredAt, -⟩
    exact ⟨Kind.given_optional.mp hrequestId, (Kind.given_required rfl).mp heventType,
      (Kind.given_required rfl).mp hemployeeId, (Kind.given_required rfl).mp hcompanyId,
      (Kind.given_required rfl).mp hoccurredAt⟩
  · rintro ⟨hrequestId, heventType, hemployeeId, hcompanyId, hoccurredAt⟩
    exact ⟨Kind.given_optional.mpr hrequestId, .inl heventType, .inl hemployeeId,
      .inl hcompanyId, .inl hoccurredAt, trivial⟩

theorem EmployeeCreated.listedBy_iff (items : List Value) (event : EmployeeCreated) :
    Row.ListedBy items (DomainEvent.shape EmployeeCreated).fields event.row ↔
      event.ListedBy items := by
  constructor
  · rintro ⟨_, _, rfl, hrequestId, _, _, rfl, heventType, _, _, rfl, hemployeeId, _, _, rfl,
      hcompanyId, _, _, rfl, hoccurredAt, rfl⟩
    exact .intro hrequestId heventType hemployeeId hcompanyId hoccurredAt
  · rintro ⟨hrequestId, heventType, hemployeeId, hcompanyId, hoccurredAt⟩
    exact ⟨_, _, rfl, hrequestId, _, _, rfl, heventType, _, _, rfl, hemployeeId, _, _, rfl,
      hcompanyId, _, _, rfl, hoccurredAt, rfl⟩

/-- The members give the event of a requested payslip its fields. -/
theorem PayslipRequested.toldBy_iff (members : List (String × Value)) (event : PayslipRequested) :
    Row.ToldBy members (DomainEvent.shape PayslipRequested).fields event.row ↔
      event.ToldBy members := by
  constructor
  · rintro ⟨heventType, hpayrollId, hcompanyId, hrequestedBy, hoccurredAt, -⟩
    exact ⟨(Kind.given_required rfl).mp heventType, (Kind.given_required rfl).mp hpayrollId,
      (Kind.given_required rfl).mp hcompanyId, (Kind.given_required rfl).mp hrequestedBy,
      (Kind.given_required rfl).mp hoccurredAt⟩
  · rintro ⟨heventType, hpayrollId, hcompanyId, hrequestedBy, hoccurredAt⟩
    exact ⟨.inl heventType, .inl hpayrollId, .inl hcompanyId, .inl hrequestedBy,
      .inl hoccurredAt, trivial⟩

theorem PayslipRequested.listedBy_iff (items : List Value) (event : PayslipRequested) :
    Row.ListedBy items (DomainEvent.shape PayslipRequested).fields event.row ↔
      event.ListedBy items := by
  constructor
  · rintro ⟨_, _, rfl, heventType, _, _, rfl, hpayrollId, _, _, rfl, hcompanyId, _, _, rfl,
      hrequestedBy, _, _, rfl, hoccurredAt, rfl⟩
    exact .intro heventType hpayrollId hcompanyId hrequestedBy hoccurredAt
  · rintro ⟨heventType, hpayrollId, hcompanyId, hrequestedBy, hoccurredAt⟩
    exact ⟨_, _, rfl, heventType, _, _, rfl, hpayrollId, _, _, rfl, hcompanyId, _, _, rfl,
      hrequestedBy, _, _, rfl, hoccurredAt, rfl⟩

namespace DomainEvent

/-- Bodies of both types of events are accepted exactly as intended: maps by the members with the
names of the fields, whatever stands around them, and sequences by one value for each field. -/
theorem bodies_accepted_exactly :
    AcceptsExactly EmployeeCreated
        ["request_id", "event_type", "employee_id", "company_id", "occurred_at"]
        (fun members event => event.ToldBy members) (fun items event => event.ListedBy items) ∧
      AcceptsExactly PayslipRequested
        ["event_type", "payroll_id", "company_id", "requested_by", "occurred_at"]
        (fun members event => event.ToldBy members) (fun items event => event.ListedBy items) := by
  constructor
  · refine acceptsExactly EmployeeCreated.row ?_ rfl (by decide) (by decide)
      EmployeeCreated.toldBy_iff EmployeeCreated.listedBy_iff
    intro event other
    constructor
    · rintro rfl
      rfl
    · rintro rfl
      rfl
  · refine acceptsExactly PayslipRequested.row ?_ rfl (by decide) (by decide)
      PayslipRequested.toldBy_iff PayslipRequested.listedBy_iff
    intro event other
    constructor
    · rintro rfl
      rfl
    · rintro rfl
      rfl

/-- Members in a strange order, with two of one name that no field has. In a value that nobody uses
a surrogate stands alone. -/
def oddMembers : List (String × Value) := [
  ("event_type", .ofText "𝄞/"),
  ("extra", .sequence [.map [([0xD800], .number [0x2D, 0x30])], .boolean true]),
  ("company_id", .ofText "00000000000000000000000000000001"),
  ("extra", .null),
  ("employee_id", .ofText "00000000000000000000000000000002"),
  ("occurred_at", .ofText "1970-01-01T00:00:00Z")]

/-- These members with blanks and escapes. -/
def oddBody : Bytes := utf8
  "\t\x7b \"\\u0065vent_type\" : \"\\ud834\\uDD1E\\/\",
    \"extra\":[ \x7b\"\\uD800\":-0 \x7d,true] ,
    \"company_id\":\"00000000000000000000000000000001\",\"extra\":null,
    \"employee_id\":\"00000000000000000000000000000002\",
    \"occurred_at\":\"1970-01-01T00:00:00Z\"\x7d\n"

private theorem content_of_eq {units units' : List UInt16} {bytes bytes' : Bytes}
    (h : Content units bytes) (hunits : units' = units) (hbytes : bytes' = bytes) :
    Content units' bytes' := hunits ▸ hbytes ▸ h

private theorem document_of_eq {v : Value} {bytes bytes' : Bytes} (h : Spells (.element v) bytes)
    (hbytes : bytes' = bytes) : Document v bytes' := hbytes ▸ h

private theorem blank_of_all (bytes : Bytes) (h : bytes.all isSpace = true) : Blank bytes :=
  List.all_eq_true.mp h

private theorem element_of_value {v : Value} {bytes : Bytes} (h : Spells (.value v) bytes) :
    Spells (.element v) ([] ++ (bytes ++ [])) := .element blank_nil h blank_nil

private theorem content_of_all {cs : List Char}
    (h : (cs.all fun c => c ≠ '"' ∧ c ≠ '\\' ∧ 0x20 ≤ c.toNat) = true) :
    Content (utf16 cs) (encoded cs) :=
  .plain fun c hc => of_decide_eq_true (List.all_eq_true.mp h c hc)

/-- A member of plain characters after blanks. -/
private theorem plain_member (blanks : Bytes) (name text : String)
    (hblanks : blanks.all isSpace = true)
    (hname : (name.toList.all fun c => c ≠ '"' ∧ c ≠ '\\' ∧ 0x20 ≤ c.toNat) = true)
    (htext : (text.toList.all fun c => c ≠ '"' ∧ c ≠ '\\' ∧ 0x20 ≤ c.toNat) = true) :
    Spells (.member (utf16 name.toList) (.ofText text))
      (blanks ++ quoteMark :: (encoded name.toList ++ quoteMark :: ([] ++ colonMark ::
        ([] ++ (quoteMark :: (encoded text.toList ++ [quoteMark]) ++ []))))) :=
  .member (blank_of_all blanks hblanks) (content_of_all hname) blank_nil
    (element_of_value (.string (content_of_all htext)))

private theorem oddBody_document : Document (.ofMembers oddMembers) oddBody := by
  have hname : Content (utf16 "event_type".toList) (utf8 "\\u0065vent_type") := by
    have hlater : Content (utf16 "vent_type".toList) (encoded "vent_type".toList) :=
      content_of_all (by decide +kernel)
    exact content_of_eq (.cons (@Piece.unit 0x30 0x30 0x36 0x35 0 0 6 5 rfl rfl rfl rfl) hlater)
      (by decide +kernel) (by decide +kernel)
  have htext : Content (utf16 "𝄞/".toList) (utf8 "\\ud834\\uDD1E\\/") := by
    refine content_of_eq (.cons (@Piece.unit 0x64 0x38 0x33 0x34 13 8 3 4 rfl rfl rfl rfl)
      (.cons (@Piece.unit 0x44 0x44 0x31 0x45 13 13 1 14 rfl rfl rfl rfl)
        (.cons (@Piece.short '/' '/' (by decide)) .nil))) (by decide +kernel) (by decide +kernel)
  have hsurrogate : Content [0xD800] (utf8 "\\uD800") :=
    content_of_eq (.cons (@Piece.unit 0x44 0x38 0x30 0x30 13 8 0 0 rfl rfl rfl rfl) .nil)
      (by decide +kernel) (by decide +kernel)
  have hzero : Numeral [0x2D, 0x30] :=
    @Numeral.negative [0x30] [] [] ⟨⟨by decide, List.all_eq_true.mp rfl⟩, by decide⟩ .none .none
  have hextra : Content (utf16 "extra".toList) (encoded "extra".toList) :=
    content_of_all (by decide +kernel)
  have hspace : Blank [0x20] := blank_of_all _ rfl
  have hline : [0x0A, 0x20, 0x20, 0x20, 0x20].all isSpace = true := rfl
  have heventType := Spells.member hspace hname hspace
    (.element hspace (.string htext) blank_nil)
  have hinner := Spells.member blank_nil hsurrogate blank_nil
    (.element blank_nil (.number hzero) hspace)
  have hitems := Spells.item (.element hspace (.map (.lastMember hinner)) blank_nil)
    (.lastItem (element_of_value (.boolean true)))
  have hsequence := Spells.member (blank_of_all _ hline) hextra blank_nil
    (.element blank_nil (.sequence hitems) hspace)
  have hnull := Spells.member blank_nil hextra blank_nil (element_of_value .null)
  have hcompanyId := plain_member _ "company_id" "00000000000000000000000000000001" hline
    (by decide +kernel) (by decide +kernel)
  have hemployeeId := plain_member _ "employee_id" "00000000000000000000000000000002" hline
    (by decide +kernel) (by decide +kernel)
  have hoccurredAt := plain_member _ "occurred_at" "1970-01-01T00:00:00Z" hline
    (by decide +kernel) (by decide +kernel)
  have hmembers := Spells.moreMembers heventType <| .moreMembers hsequence <|
    .moreMembers hcompanyId <| .moreMembers hnull <| .moreMembers hemployeeId <|
    .lastMember hoccurredAt
  exact document_of_eq
    (.element (blank_of_all [0x09] rfl) (.map hmembers) (blank_of_all [0x0A] rfl))
    (by decide +kernel)

/-- Such a body denotes an event without a correlation name. -/
theorem odd_body_accepted :
    decode oddBody = .ok (⟨none, "𝄞/", ⟨2⟩, ⟨1⟩, ⟨0, 0⟩⟩ : EmployeeCreated) := by
  have hcompanyId : Uuid.read "00000000000000000000000000000001".toList = .ok ⟨1⟩ :=
    toOption_eq_some_iff.mp (by decide +kernel)
  have hemployeeId : Uuid.read "00000000000000000000000000000002".toList = .ok ⟨2⟩ :=
    toOption_eq_some_iff.mp (by decide +kernel)
  have hoccurredAt : Instant.read "1970-01-01T00:00:00Z".toList = .ok ⟨0, 0⟩ :=
    toOption_eq_some_iff.mp (by decide +kernel)
  refine (bodies_accepted_exactly.1.map oddBody_document _).mpr ⟨.inr ⟨?_, rfl⟩, ?_, ?_, ?_, ?_⟩
  · simp [valuesAt, oddMembers]
  · exact ⟨.ofText "𝄞/", by simp [valuesAt, oddMembers], rfl⟩
  · exact ⟨_, by simp [valuesAt, oddMembers], _, rfl, hemployeeId⟩
  · exact ⟨_, by simp [valuesAt, oddMembers], _, rfl, hcompanyId⟩
  · exact ⟨_, by simp [valuesAt, oddMembers], _, rfl, hoccurredAt⟩

end DomainEvent
end HrPipeline
