import HrPipeline.Api.Response
import HrPipeline.Json.Record
import HrPipeline.Storage
import HrPipeline.Text.LowerCase

/-!
# Operations of the interface

What callers may ask for: a new employee, a new payroll, and the payslip of a payroll. An operation
checks the request, and then works on the tables in one transaction: it either does everything,
the event included, or nothing.
-/

namespace HrPipeline.Api

open HrPipeline.Calendar HrPipeline.Json HrPipeline.Outbox HrPipeline.Text

/-- What an operation works with besides the request. -/
structure Context where
  /-- The current time. -/
  now : Instant
  /-- The current time as the database sees it. -/
  databaseNow : Instant
  /-- A new identifier for what is created. -/
  subject : Uuid
  /-- A new identifier for its event. -/
  event : Uuid
deriving DecidableEq

/-- Asks for a new employee. -/
structure CreateEmployee where
  companyId : Uuid
  firstName : String
  lastName : String
  email : String
deriving DecidableEq

/-- Asks for a new payroll. -/
structure CreatePayroll where
  companyId : Uuid
  periodStart : Date
  periodEnd : Date
deriving DecidableEq

/-- Asks for the payslip of a payroll. -/
structure RequestPayslip where
  companyId : Uuid
  requestedBy : Uuid
deriving DecidableEq

/-- The body that asks for a new employee. -/
def CreateEmployee.shape : Shape := ⟨"CreateEmployeeRequest", [
  ⟨"company_id", .uuid⟩, ⟨"first_name", .text⟩, ⟨"last_name", .text⟩, ⟨"email", .text⟩]⟩

/-- The request with these values of the fields. -/
def CreateEmployee.ofRow : Row CreateEmployee.shape.fields → CreateEmployee :=
  fun (companyId, firstName, lastName, email, _) => ⟨companyId, firstName, lastName, email⟩

/-- The body that asks for a new payroll. -/
def CreatePayroll.shape : Shape := ⟨"CreatePayrollRequest", [
  ⟨"company_id", .uuid⟩, ⟨"period_start", .date⟩, ⟨"period_end", .date⟩]⟩

/-- The request with these values of the fields. -/
def CreatePayroll.ofRow : Row CreatePayroll.shape.fields → CreatePayroll :=
  fun (companyId, periodStart, periodEnd, _) => ⟨companyId, periodStart, periodEnd⟩

/-- The body that asks for a payslip. -/
def RequestPayslip.shape : Shape := ⟨"RequestPayslipRequest", [
  ⟨"company_id", .uuid⟩, ⟨"requested_by", .uuid⟩]⟩

/-- The request with these values of the fields. -/
def RequestPayslip.ofRow : Row RequestPayslip.shape.fields → RequestPayslip :=
  fun (companyId, requestedBy, _) => ⟨companyId, requestedBy⟩

/-- The members of an employee as it is answered. -/
def employeeMembers (employee : Employee) : List (String × Option String) := [
  ("id", employee.id.text), ("company_id", employee.companyId.text),
  ("first_name", employee.firstName), ("last_name", employee.lastName),
  ("email", employee.email), ("created_at", employee.createdAt.text),
  ("updated_at", employee.updatedAt.text)]

/-- The members of a payroll as it is answered. -/
def payrollMembers (payroll : Payroll) : List (String × Option String) := [
  ("id", payroll.id.text), ("company_id", payroll.companyId.text),
  ("period_start", payroll.periodStart.text), ("period_end", payroll.periodEnd.text),
  ("gross_total", payroll.grossTotal.text), ("status", payroll.status),
  ("created_at", payroll.createdAt.text), ("updated_at", payroll.updatedAt.text)]

/-- The members of the answer about a requested payslip. -/
def payslipMembers (payrollId eventId : Uuid) : List (String × Option String) := [
  ("payroll_id", payrollId.text), ("event_id", eventId.text), ("status", "requested")]

/-- Runs statements on the tables of a storage in one transaction. -/
def transact {α : Type} (storage : Storage)
    (statements : Database → Except ApiError (α × Database)) : Except ApiError (α × Storage) :=
  match storage.tables? with
  | none => .error (.ofOutbox Storage.noConnection)
  | some db => (statements db).map fun result => (result.1, storage.withTables result.2)

/-- Refuses an employee without a name or with an impossible address. -/
def CreateEmployee.check (request : CreateEmployee) : Except ApiError Unit :=
  if isBlankText request.firstName || isBlankText request.lastName then
    .error (.invalid "first_name and last_name are required")
  else if request.email.toList.contains '@' then .ok ()
  else .error (.invalid ("invalid email: " ++ request.email))

/-- The employee that a request asks for. -/
def CreateEmployee.employee (context : Context) (request : CreateEmployee) : Employee where
  id := context.subject
  companyId := request.companyId
  firstName := trim request.firstName
  lastName := trim request.lastName
  email := lowerCase (trim request.email)
  createdAt := context.now
  updatedAt := context.now

/-- Inserts an employee and the event that tells of it. -/
def insertEmployeeWithEvent (context : Context) (requestId : Option String)
    (request : CreateEmployee) (db : Database) : Except ApiError (Employee × Database) := do
  let (employee, db) ← (db.insertEmployee (request.employee context)).mapError .ofDatabase
  let event := EmployeeCreated.new context.subject request.companyId requestId context.now
  let db ← (db.publish context.databaseNow context.event event).mapError .ofOutbox
  .ok (employee, db)

/-- Adds an employee to a company. -/
def createEmployee (context : Context) (requestId : Option String) (request : CreateEmployee)
    (storage : Storage) : Except ApiError (Employee × Storage) := do
  request.check
  transact storage (insertEmployeeWithEvent context requestId request)

/-- Refuses a payroll whose period ends before it starts. -/
def CreatePayroll.check (request : CreatePayroll) : Except ApiError Unit :=
  if request.periodEnd.epochDay < request.periodStart.epochDay then
    .error (.invalid ("period_end " ++ request.periodEnd.text ++ " is before period_start "
      ++ request.periodStart.text))
  else .ok ()

/-- The payroll that a request asks for. -/
def CreatePayroll.payroll (context : Context) (request : CreatePayroll) : Payroll where
  id := context.subject
  companyId := request.companyId
  periodStart := request.periodStart
  periodEnd := request.periodEnd
  grossTotal := Amount.zero
  status := "draft"
  createdAt := context.now
  updatedAt := context.now

/-- Adds a payroll to a company. -/
def createPayroll (context : Context) (request : CreatePayroll) (storage : Storage) :
    Except ApiError (Payroll × Storage) := do
  request.check
  transact storage fun db =>
    (db.insertPayroll (request.payroll context)).mapError .ofDatabase

/-- Publishes the request for a payslip of a payroll that the company has. -/
def publishPayslipRequest (context : Context) (payrollId : Uuid) (request : RequestPayslip)
    (db : Database) : Except ApiError (Uuid × Database) :=
  match db.payroll? request.companyId payrollId with
  | none => .error (.notFound ("payroll " ++ payrollId.text ++ " not found"))
  | some _ =>
    let event := PayslipRequested.new payrollId request.companyId request.requestedBy context.now
    match db.publish context.databaseNow context.event event with
    | .ok db => .ok (context.event, db)
    | .error error => .error (.ofOutbox error)

/-- Asks for the payslip of a payroll; gives the identifier of the event. -/
def requestPayslip (context : Context) (payrollId : Uuid) (request : RequestPayslip)
    (storage : Storage) : Except ApiError (Uuid × Storage) :=
  transact storage (publishPayslipRequest context payrollId request)

end HrPipeline.Api
