import HrPipeline.Calendar.Written
import HrPipeline.Json.Record
import HrPipeline.Json.Written

/-!
# Domain events

An event tells what happened to one aggregate. Each type of event has its topic, its own name for
itself and the type of its aggregate, and a body of JSON: `encode` writes it and `decode` reads it.
The name recorded in a body may differ from the type's own, since a topic may carry several kinds
of events; `isHandled` tells the two apart.
-/

namespace HrPipeline

open HrPipeline.Calendar HrPipeline.Json

/-- A type of events with a topic and a written form. -/
class DomainEvent (ε : Type) where
  /-- The topic on which events of this type travel. -/
  topic : String
  /-- The name that events of this type have. -/
  eventType : String
  /-- The type of the aggregate that the events belong to. -/
  aggregateType : String
  /-- The name of the aggregate, which keys the messages. -/
  aggregateId : ε → String
  /-- The name recorded in the body. -/
  recordedType : ε → String
  /-- The correlation name of the request that caused the event. -/
  requestId : ε → Option String
  /-- The members of the body in order. -/
  members : ε → List (String × Option String)
  /-- The fields of the body. -/
  shape : Shape
  /-- The event with these values of the fields. -/
  ofRow : Row shape.fields → ε

namespace DomainEvent

variable {ε : Type} [DomainEvent ε]

/-- The body of an event as a text. -/
def bodyText (event : ε) : String := mapText (members event)

/-- The body of an event. -/
def encode (event : ε) : Bytes := Text.utf8 (bodyText event)

/-- The event that a body denotes. -/
def decode (body : Bytes) : Except Refusal ε := (Shape.decode (shape ε) body).map ofRow

/-- Whether the body names the type's own kind of event. -/
def isHandled (event : ε) : Bool := recordedType event = eventType ε

end DomainEvent

/-- An employee was added to a company. -/
structure EmployeeCreated where
  requestId : Option String
  eventType : String
  employeeId : Uuid
  companyId : Uuid
  occurredAt : Instant
deriving DecidableEq

/-- A payslip was requested for a payroll. -/
structure PayslipRequested where
  eventType : String
  payrollId : Uuid
  companyId : Uuid
  requestedBy : Uuid
  occurredAt : Instant
deriving DecidableEq

/-- The topic of events about employees. -/
def employeeTopic : String := "hr.employee.lifecycle.v1"

/-- The topic of requests for payslips. -/
def payslipTopic : String := "hr.payroll.payslip.requested.v1"

instance : DomainEvent EmployeeCreated where
  topic := employeeTopic
  eventType := "employee.created"
  aggregateType := "employee"
  aggregateId event := event.employeeId.text
  recordedType event := event.eventType
  requestId event := event.requestId
  members event := [
    ("request_id", event.requestId), ("event_type", event.eventType),
    ("employee_id", event.employeeId.text), ("company_id", event.companyId.text),
    ("occurred_at", event.occurredAt.text)]
  shape := ⟨"EmployeeCreated", [
    ⟨"request_id", .optionalText⟩, ⟨"event_type", .text⟩, ⟨"employee_id", .uuid⟩,
    ⟨"company_id", .uuid⟩, ⟨"occurred_at", .instant⟩]⟩
  ofRow := fun (requestId, eventType, employeeId, companyId, occurredAt, _) =>
    ⟨requestId, eventType, employeeId, companyId, occurredAt⟩

instance : DomainEvent PayslipRequested where
  topic := payslipTopic
  eventType := "payroll.payslip.requested"
  aggregateType := "payroll"
  aggregateId event := event.payrollId.text
  recordedType event := event.eventType
  requestId _ := none
  members event := [
    ("event_type", event.eventType), ("payroll_id", event.payrollId.text),
    ("company_id", event.companyId.text), ("requested_by", event.requestedBy.text),
    ("occurred_at", event.occurredAt.text)]
  shape := ⟨"PayrollPayslipRequested", [
    ⟨"event_type", .text⟩, ⟨"payroll_id", .uuid⟩, ⟨"company_id", .uuid⟩,
    ⟨"requested_by", .uuid⟩, ⟨"occurred_at", .instant⟩]⟩
  ofRow := fun (eventType, payrollId, companyId, requestedBy, occurredAt, _) =>
    ⟨eventType, payrollId, companyId, requestedBy, occurredAt⟩

/-- The event of a new employee, under the type's own name. -/
def EmployeeCreated.new (employeeId companyId : Uuid) (requestId : Option String)
    (occurredAt : Instant) : EmployeeCreated :=
  ⟨requestId, DomainEvent.eventType EmployeeCreated, employeeId, companyId, occurredAt⟩

/-- The event of a requested payslip, under the type's own name. -/
def PayslipRequested.new (payrollId companyId requestedBy : Uuid) (occurredAt : Instant) :
    PayslipRequested :=
  ⟨DomainEvent.eventType PayslipRequested, payrollId, companyId, requestedBy, occurredAt⟩

end HrPipeline
