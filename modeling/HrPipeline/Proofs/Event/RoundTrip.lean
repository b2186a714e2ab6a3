import HrPipeline.Event
import HrPipeline.Proofs.Json.WrittenRecord

/-!
# Bodies of events are read back

The body of an event is the written row of its fields. Both types of events have fields of
different names, so that the body of an event at a valid instant denotes the event itself.
-/

namespace HrPipeline

open HrPipeline.Calendar HrPipeline.Json HrPipeline.Text

/-- A body that is the written row of an event denotes the event. -/
theorem DomainEvent.decode_encode {ε : Type} [DomainEvent ε] {event : ε}
    (row : Row (shape ε).fields) (hevent : ofRow row = event)
    (hmembers : members event = Row.members (shape ε).fields row)
    (hnames : ((shape ε).fields.map Field.name).Nodup)
    (hrow : Row.Supported (shape ε).fields row) : decode (encode event) = .ok event := by
  unfold decode encode bodyText
  rw [hmembers, Shape.decode_written hnames hrow, ← hevent]
  rfl

namespace EmployeeCreated

/-- The values of the fields in their order. -/
def row (event : EmployeeCreated) : Row (DomainEvent.shape EmployeeCreated).fields :=
  (event.requestId, event.eventType, event.employeeId, event.companyId, event.occurredAt, ())

/-- The body of a new employee's event denotes the event. -/
theorem decode_encode {event : EmployeeCreated} (h : event.occurredAt.Valid) :
    DomainEvent.decode (DomainEvent.encode event) = .ok event :=
  DomainEvent.decode_encode event.row rfl rfl (by decide)
    ⟨trivial, trivial, trivial, trivial, h, trivial⟩

end EmployeeCreated

namespace PayslipRequested

/-- The values of the fields in their order. -/
def row (event : PayslipRequested) : Row (DomainEvent.shape PayslipRequested).fields :=
  (event.eventType, event.payrollId, event.companyId, event.requestedBy, event.occurredAt, ())

/-- The body of a requested payslip's event denotes the event. -/
theorem decode_encode {event : PayslipRequested} (h : event.occurredAt.Valid) :
    DomainEvent.decode (DomainEvent.encode event) = .ok event :=
  DomainEvent.decode_encode event.row rfl rfl (by decide)
    ⟨trivial, trivial, trivial, trivial, h, trivial⟩

end PayslipRequested

namespace DomainEvent

/-- Events of one type that are read back have different bodies. -/
private theorem encode_inj {ε : Type} [DomainEvent ε] {first second : ε}
    (hfirst : decode (encode first) = .ok first) (hsecond : decode (encode second) = .ok second)
    (h : encode first = encode second) : first = second := by
  rw [h, hsecond] at hfirst
  exact (Except.ok.inj hfirst).symm

/-- The body of a new employee's event starts otherwise than that of a requested payslip's. -/
private theorem encode_ne (hired : EmployeeCreated) (requested : PayslipRequested) :
    encode hired ≠ encode requested := by
  intro h
  have htexts := congrArg String.toList (utf8_inj h)
  simp only [bodyText, mapText, String.toList_ofList] at htexts
  -- The third character is the first one of the first member's name.
  have hthird := congrArg (·[2]?) htexts
  simp [writtenMap, members, writtenMember, writtenText, writtenChar] at hthird

/-- A body tells which event it is of. Every event at a valid instant is what its body denotes,
whatever characters its texts consist of; so different events have different bodies, of one type as
well as of two. -/
theorem bodies_determine_events :
    (∀ hired : EmployeeCreated, hired.occurredAt.Valid → decode (encode hired) = .ok hired) ∧
      (∀ requested : PayslipRequested, requested.occurredAt.Valid →
        decode (encode requested) = .ok requested) ∧
      (∀ first second : EmployeeCreated, first.occurredAt.Valid → second.occurredAt.Valid →
        first ≠ second → encode first ≠ encode second) ∧
      (∀ first second : PayslipRequested, first.occurredAt.Valid → second.occurredAt.Valid →
        first ≠ second → encode first ≠ encode second) ∧
      ∀ (hired : EmployeeCreated) (requested : PayslipRequested),
        encode hired ≠ encode requested := by
  refine ⟨fun _ => EmployeeCreated.decode_encode, fun _ => PayslipRequested.decode_encode, ?_, ?_,
    encode_ne⟩
  · intro first second hfirst hsecond
    exact mt (encode_inj (EmployeeCreated.decode_encode hfirst)
      (EmployeeCreated.decode_encode hsecond))
  · intro first second hfirst hsecond
    exact mt (encode_inj (PayslipRequested.decode_encode hfirst)
      (PayslipRequested.decode_encode hsecond))

/-- An event in a leap second of a year after 9999, whose texts hold a control character, a quote, a
backslash and a character beyond the first plane. -/
def oddlyHired : EmployeeCreated :=
  ⟨some "\u0000\x01\"\\\n", "\u007f𝄞", Uuid.nil, Uuid.reserved 1, ⟨253402300859, 1000000001⟩⟩

/-- An event before the year 0, in the last nanosecond of a second. -/
def oddlyRequested : PayslipRequested :=
  ⟨"", Uuid.reserved 2, Uuid.reserved 3, Uuid.nil, ⟨-62198755201, 999999999⟩⟩

/-- Such events are read back too, and an absent name is not the text `null`. -/
theorem odd_bodies_determine_events :
    oddlyHired.occurredAt.text = "+10000-01-01T00:00:60.000000001Z" ∧
      oddlyRequested.occurredAt.text = "-0002-12-31T23:59:59.999999999Z" ∧
      decode (encode oddlyHired) = .ok oddlyHired ∧
      decode (encode oddlyRequested) = .ok oddlyRequested ∧
      encode { oddlyHired with requestId := none } ≠
        encode { oddlyHired with requestId := some "null" } := by
  obtain ⟨hhired, hrequested, hdifferent, -⟩ := bodies_determine_events
  have hleap : oddlyHired.occurredAt.Valid :=
    ⟨by decide +kernel, by decide +kernel, .inr (by decide +kernel)⟩
  refine ⟨by decide +kernel, by decide +kernel, hhired _ hleap, hrequested _ ?_,
    hdifferent _ _ hleap hleap ?_⟩
  · exact ⟨by decide +kernel, by decide +kernel, .inl (by decide +kernel)⟩
  · decide +kernel

end DomainEvent
end HrPipeline
