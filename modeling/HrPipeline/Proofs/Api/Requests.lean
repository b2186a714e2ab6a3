import HrPipeline.Api.Service
import HrPipeline.Proofs.Api.Session
import HrPipeline.Proofs.Database.Inserts

/-!
# Requests by their statements

The operations of the interface as sessions: a new employee takes two statements in a transaction,
and so does a requested payslip. Under an outage any of them may fail, from the connection to the
commit. Without one, the sessions do what the operations do.
-/

namespace HrPipeline.Api

open HrPipeline.Outbox

/-- Enlists an event, whose draft is checked first. -/
def publishing {ε : Type} [DomainEvent ε] (context : Context) (event : ε) : Session Unit :=
  (Session.check ((Draft.ofEvent context.event event).check.mapError .ofOutbox)).andThen fun _ =>
    Session.send fun db =>
      (db.insertDraft context.databaseNow (Draft.ofEvent context.event event)).map fun db =>
        ((), db)

/-- Inserts an employee and the event that tells of it. -/
def hiring (context : Context) (requestId : Option String) (request : CreateEmployee) :
    Session Employee :=
  (Session.send fun db => db.insertEmployee (request.employee context)).andThen fun employee =>
    (publishing context (EmployeeCreated.new context.subject request.companyId requestId
      context.now)).andThen fun _ => .done employee

/-- Publishes the request for the payslip of a payroll, if there is one. -/
def requestingFor (context : Context) (payrollId : Uuid) (request : RequestPayslip) :
    Option Payroll → Session Uuid
  | none => .check (.error (.notFound ("payroll " ++ payrollId.text ++ " not found")))
  | some _ =>
    (publishing context (PayslipRequested.new payrollId request.companyId request.requestedBy
      context.now)).andThen fun _ => .done context.event

/-- Looks for a payroll of a company and publishes the request for its payslip. -/
def requesting (context : Context) (payrollId : Uuid) (request : RequestPayslip) : Session Uuid :=
  (Session.send fun db => .ok (db.payroll? request.companyId payrollId, db)).andThen
    (requestingFor context payrollId request)

/-- Adds an employee to a company under an outage. -/
def createEmployeeUnder (outage : Outage) (context : Context) (requestId : Option String)
    (request : CreateEmployee) (storage : Storage) : Except ApiError Employee × Storage :=
  match request.check with
  | .error error => (.error error, storage)
  | .ok _ => (hiring context requestId request).transaction.onStorage outage storage

/-- Asks for the payslip of a payroll under an outage. -/
def requestPayslipUnder (outage : Outage) (context : Context) (payrollId : Uuid)
    (request : RequestPayslip) (storage : Storage) : Except ApiError Uuid × Storage :=
  (requesting context payrollId request).transaction.onStorage outage storage

/-- The answer that a result calls for, with the storage that is left behind. -/
def answer {α : Type} (status : Nat) (notice : Notice)
    (members : α → List (String × Option String)) : Except ApiError α × Storage → Served
  | (.ok value, storage) => ⟨.json status (members value), storage, [notice]⟩
  | (.error error, storage) => ⟨error.response, storage, error.notices⟩

/-- Answers a request for a new employee under an outage. -/
def serveEmployeesUnder (outage : Outage) (context : Context) (request : Request)
    (storage : Storage) : Served :=
  unlessRejected storage (fun row =>
      answer 201 .employeeCreated employeeMembers
        (createEmployeeUnder outage context (requestId request.headers) (.ofRow row) storage))
    (jsonBody CreateEmployee.shape request)

/-- Answers a request for the payslip of a payroll under an outage. -/
def servePayslipsUnder (outage : Outage) (context : Context) (segment : String)
    (request : Request) (storage : Storage) : Served :=
  unlessRejected storage (fun id =>
      unlessRejected storage (fun row =>
          answer 202 .payslipRequested (payslipMembers id)
            (requestPayslipUnder outage context id (.ofRow row) storage))
        (jsonBody RequestPayslip.shape request))
    (identifier segment)

theorem Session.CarriesOut.congr {α : Type} {session : Session α}
    {change change' : Database → Except ApiError (α × Database)} (h : CarriesOut session change)
    (heq : ∀ db, change db = change' db) : CarriesOut session change' := by
  obtain rfl : change = change' := funext heq
  exact h

/-- Enlisting an event by its statement is publishing it. -/
theorem carriesOut_publishing {ε : Type} [DomainEvent ε] (context : Context) (event : ε) :
    Session.CarriesOut (publishing context event) fun db =>
      ((db.publish context.databaseNow context.event event).mapError ApiError.ofOutbox).map
        fun db => ((), db) := by
  refine ((Session.carriesOut_check _).andThen fun _ => Session.carriesOut_send _).congr ?_
  intro db
  rw [Database.publish, Database.enlist_eq]
  cases (Draft.ofEvent context.event event).check with
  | error error => rfl
  | ok _ =>
    show ((db.insertDraft context.databaseNow (Draft.ofEvent context.event event)).map
      fun db => ((), db)).mapError ApiError.ofDatabase = (((db.insertDraft context.databaseNow
        (Draft.ofEvent context.event event)).mapError .database).mapError ApiError.ofOutbox).map _
    cases db.insertDraft context.databaseNow (Draft.ofEvent context.event event) <;> rfl

/-- Hiring is inserting the employee together with its event. -/
theorem carriesOut_hiring (context : Context) (requestId : Option String)
    (request : CreateEmployee) :
    Session.CarriesOut (hiring context requestId request)
      (insertEmployeeWithEvent context requestId request) := by
  refine ((Session.carriesOut_send _).andThen fun employee =>
    (carriesOut_publishing context _).andThen fun _ => Session.carriesOut_done employee).congr ?_
  intro db
  unfold insertEmployeeWithEvent
  cases (db.insertEmployee (request.employee context)).mapError ApiError.ofDatabase with
  | error error => rfl
  | ok result =>
    simp only [bind, Except.bind]
    cases (result.2.publish context.databaseNow context.event (EmployeeCreated.new context.subject
      request.companyId requestId context.now)).mapError ApiError.ofOutbox <;> rfl

/-- Requesting is publishing for a payroll that the company has. -/
theorem carriesOut_requesting (context : Context) (payrollId : Uuid) (request : RequestPayslip) :
    Session.CarriesOut (requesting context payrollId request)
      (publishPayslipRequest context payrollId request) := by
  have hfor : ∀ found, Session.CarriesOut (requestingFor context payrollId request found) fun db =>
      match found with
      | none => .error (.notFound ("payroll " ++ payrollId.text ++ " not found"))
      | some _ => ((db.publish context.databaseNow context.event (PayslipRequested.new payrollId
          request.companyId request.requestedBy context.now)).mapError ApiError.ofOutbox).map
            fun db => (context.event, db) := by
    intro found
    cases found with
    | none => exact Session.carriesOut_check _
    | some payroll =>
      refine ((carriesOut_publishing context _).andThen fun _ =>
        Session.carriesOut_done context.event).congr ?_
      intro db
      cases (db.publish context.databaseNow context.event (PayslipRequested.new payrollId
        request.companyId request.requestedBy context.now)).mapError ApiError.ofOutbox <;> rfl
  refine ((Session.carriesOut_send _).andThen hfor).congr ?_
  intro db
  unfold publishPayslipRequest
  show (match db.payroll? request.companyId payrollId with | none => _ | some _ => _) = _
  cases db.payroll? request.companyId payrollId with
  | none => rfl
  | some payroll =>
    simp only
    cases db.publish context.databaseNow context.event (PayslipRequested.new payrollId
      request.companyId request.requestedBy context.now) <;> rfl

/-- Without an outage, a new employee is served as ever. -/
theorem serveEmployeesUnder_none (context : Context) (request : Request) (storage : Storage) :
    serveEmployeesUnder .none context request storage =
      serveEmployees context request storage := by
  unfold serveEmployeesUnder serveEmployees
  cases jsonBody CreateEmployee.shape request with
  | error rejection => rfl
  | ok row =>
    simp only [unlessRejected, createEmployeeUnder, createEmployee,
      (carriesOut_hiring context _ _).transact_eq, bind, Except.bind]
    cases (CreateEmployee.ofRow row).check with
    | error error => rfl
    | ok _ =>
      cases transact storage (insertEmployeeWithEvent context (requestId request.headers)
        (CreateEmployee.ofRow row)) <;> rfl

/-- Without an outage, a payslip is requested as ever. -/
theorem servePayslipsUnder_none (context : Context) (segment : String) (request : Request)
    (storage : Storage) :
    servePayslipsUnder .none context segment request storage =
      servePayslips context segment request storage := by
  unfold servePayslipsUnder servePayslips
  cases identifier segment with
  | error rejection => rfl
  | ok id =>
    simp only [unlessRejected]
    cases jsonBody RequestPayslip.shape request with
    | error rejection => rfl
    | ok row =>
      simp only [requestPayslipUnder, requestPayslip,
        (carriesOut_requesting context _ _).transact_eq]
      cases transact storage (publishPayslipRequest context id (RequestPayslip.ofRow row)) <;> rfl

end HrPipeline.Api
