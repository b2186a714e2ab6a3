import HrPipeline.Proofs.Api.Atomicity

/-!
# Events that requests emit

A request that is answered with the status of success for its route emits one event, and any other
request emits none. `serve_emits` says what answering a request does to the tables of a database,
together with the event that it emits.
-/

namespace HrPipeline

open HrPipeline.Json HrPipeline.Outbox

/-- A row tells of an event: it goes to the topic of such events, and its payload denotes the event,
which is handled as one of its kind. -/
structure Outbox.Row.Tells {ε : Type} [DomainEvent ε] (event : ε) (row : Row) : Prop where
  topic : row.topic = DomainEvent.topic ε
  payload : DomainEvent.decode row.payload = .ok event
  handled : DomainEvent.isHandled event = true

namespace Api

/-- The event of a new employee that a request emits, as its response tells. -/
def employeeCreated? (context : Context) (request : Request) (response : Response) :
    Option EmployeeCreated :=
  match Route.of? request.path, jsonBody CreateEmployee.shape request with
  | some .employees, .ok row =>
    if response.status = 201 then
      some (EmployeeCreated.new context.subject (CreateEmployee.ofRow row).companyId
        (requestId request.headers) context.now)
    else none
  | _, _ => none

/-- The event of a requested payslip that a request emits, as its response tells. -/
def payslipRequested? (context : Context) (request : Request) (response : Response) :
    Option PayslipRequested :=
  match Route.of? request.path with
  | some (.payslips segment) =>
    match identifier segment, jsonBody RequestPayslip.shape request with
    | .ok payrollId, .ok row =>
      if response.status = 202 then
        some (PayslipRequested.new payrollId (RequestPayslip.ofRow row).companyId
          (RequestPayslip.ofRow row).requestedBy context.now)
      else none
    | _, _ => none
  | _ => none

/-- The tables after a request with the event that it emitted. -/
inductive Emits (db : Database) : Option EmployeeCreated → Option PayslipRequested → Database →
    Prop where
  | employee (event : EmployeeCreated) (employee : Employee) (row : Row)
      (he : employee.id = event.employeeId) (hr : row.Tells event) :
    Emits db (some event) none
      { db with employees := db.employees ++ [employee], outbox := db.outbox ++ [row] }
  | payslip (event : PayslipRequested) (payroll : Payroll) (row : Row) (hp : payroll ∈ db.payrolls)
      (hi : payroll.id = event.payrollId) (hc : payroll.companyId = event.companyId)
      (hr : row.Tells event) :
    Emits db none (some event) { db with outbox := db.outbox ++ [row] }
  | payroll (payroll : Payroll) :
    Emits db none none { db with payrolls := db.payrolls ++ [payroll] }
  | nothing : Emits db none none db

variable {context : Context} {request : Request} {db : Database} {mode : ClaimMode}
  {maxAttempts : Option Int}

/-- Nothing is emitted without a status of success. -/
private theorem emits_nothing (context : Context) (request : Request) {response : Response}
    (h : response.status ≠ 201) (h' : response.status ≠ 202) :
    Emits db (employeeCreated? context request response)
      (payslipRequested? context request response) db := by
  have he : employeeCreated? context request response = none := by
    unfold employeeCreated?
    split
    · exact if_neg h
    · rfl
  have hp : payslipRequested? context request response = none := by
    unfold payslipRequested?
    split
    · split
      · exact if_neg h'
      · rfl
    · rfl
  rw [he, hp]
  exact .nothing

/-- A request to the route of employees emits the event of the employee that it stores. -/
private theorem serveEmployees_emits (hnow : context.now.Valid)
    (hroute : Route.of? request.path = some .employees) :
    ∃ db', (serveEmployees context request (.database db mode maxAttempts)).storage =
        .database db' mode maxAttempts ∧
      Emits db (employeeCreated? context request
          (serveEmployees context request (.database db mode maxAttempts)).response)
        none db' := by
  simp only [employeeCreated?, hroute]
  cases hbody : jsonBody CreateEmployee.shape request with
  | error rejection =>
    refine ⟨db, ?_, .nothing⟩
    unfold serveEmployees
    rw [hbody]
    rfl
  | ok row =>
    have hanswer := (answersEmployee .none hnow (.database db mode maxAttempts) hbody).atomic
    rw [serveEmployeesUnder_none] at hanswer
    rcases hanswer with ⟨hstatus, other, employee, stored, ht, hstorage, -, hhired, hannounced⟩ |
      ⟨hstatus, hstorage⟩
    · obtain rfl : db = other := Option.some.inj ht
      refine ⟨_, hstorage, ?_⟩
      simp only [if_pos hstatus]
      exact .employee _ employee stored hhired.id ⟨hannounced.topic, hannounced.payload, rfl⟩
    · refine ⟨db, hstorage, ?_⟩
      simp only [if_neg hstatus]
      exact .nothing

/-- A request to the route of payslips emits the event of the payslip that it asks for. -/
private theorem servePayslips_emits (hnow : context.now.Valid) {segment : String}
    (hroute : Route.of? request.path = some (.payslips segment)) :
    ∃ db', (servePayslips context segment request (.database db mode maxAttempts)).storage =
        .database db' mode maxAttempts ∧
      Emits db none (payslipRequested? context request
        (servePayslips context segment request (.database db mode maxAttempts)).response) db' := by
  simp only [payslipRequested?, hroute]
  cases hid : identifier segment with
  | error rejection =>
    refine ⟨db, ?_, .nothing⟩
    unfold servePayslips
    rw [hid]
    rfl
  | ok payrollId =>
    cases hbody : jsonBody RequestPayslip.shape request with
    | error rejection =>
      refine ⟨db, ?_, .nothing⟩
      unfold servePayslips
      simp only [hid, hbody, unlessRejected]
    | ok row =>
      have hanswer := (answersPayslip .none hnow (.database db mode maxAttempts) hid hbody).atomic
      rw [servePayslipsUnder_none] at hanswer
      rcases hanswer with
        ⟨hstatus, other, stored, ht, ⟨payroll, hp, hi, hc⟩, hstorage, -, hannounced⟩ |
        ⟨hstatus, hstorage⟩
      · obtain rfl : db = other := Option.some.inj ht
        refine ⟨_, hstorage, ?_⟩
        simp only [if_pos hstatus]
        exact .payslip _ payroll stored hp hi hc ⟨hannounced.topic, hannounced.payload, rfl⟩
      · refine ⟨db, hstorage, ?_⟩
        simp only [if_neg hstatus]
        exact .nothing

/-- A request to the route of payrolls stores a payroll or nothing. -/
private theorem servePayrolls_emits (context : Context) (request : Request) :
    ∃ db', (servePayrolls context request (.database db mode maxAttempts)).storage =
      .database db' mode maxAttempts ∧ Emits db none none db' := by
  unfold servePayrolls
  cases jsonBody CreatePayroll.shape request with
  | error rejection => exact ⟨db, rfl, .nothing⟩
  | ok row =>
    simp only [unlessRejected, createPayroll, transact, Storage.tables?, bind, Except.bind]
    cases (CreatePayroll.ofRow row).check with
    | error error => exact ⟨db, rfl, .nothing⟩
    | ok _ =>
      cases hi : db.insertPayroll ((CreatePayroll.ofRow row).payroll context) with
      | error error => exact ⟨db, rfl, .nothing⟩
      | ok result =>
        refine ⟨result.2, rfl, ?_⟩
        unfold Database.insertPayroll at hi
        simp only [bind, Except.bind] at hi
        repeat' split at hi
        all_goals cases hi
        exact .payroll _

/-- Answering a request on a database changes the tables as the emitted event tells. -/
theorem serve_emits (hnow : context.now.Valid) (request : Request) (db : Database)
    (mode : ClaimMode) (maxAttempts : Option Int) :
    ∃ db', (serve context request (.database db mode maxAttempts)).storage =
        .database db' mode maxAttempts ∧
      Emits db
        (employeeCreated? context request
          (serve context request (.database db mode maxAttempts)).response)
        (payslipRequested? context request
          (serve context request (.database db mode maxAttempts)).response) db' := by
  unfold serve
  by_cases hoptions : request.method = "OPTIONS"
  · simp only [if_pos hoptions]
    exact ⟨db, rfl, emits_nothing context request (show 200 ≠ 201 by decide)
      (show 200 ≠ 202 by decide)⟩
  · simp only [if_neg hoptions]
    cases hroute : Route.of? request.path with
    | none =>
      exact ⟨db, rfl, emits_nothing context request (show 404 ≠ 201 by decide)
        (show 404 ≠ 202 by decide)⟩
    | some route =>
      simp only
      split
      · cases route with
        | employees =>
          obtain ⟨db', hstorage, hemits⟩ := serveEmployees_emits hnow hroute
          refine ⟨db', hstorage, ?_⟩
          have hnone : ∀ response, payslipRequested? context request response = none := by
            intro response
            simp [payslipRequested?, hroute]
          rw [hnone]
          exact hemits
        | payslips segment =>
          obtain ⟨db', hstorage, hemits⟩ := servePayslips_emits hnow hroute
          refine ⟨db', hstorage, ?_⟩
          have hnone : ∀ response, employeeCreated? context request response = none := by
            intro response
            simp [employeeCreated?, hroute]
          rw [hnone]
          exact hemits
        | payrolls =>
          obtain ⟨db', hstorage, hemits⟩ := servePayrolls_emits context request
          refine ⟨db', hstorage, ?_⟩
          simp only [employeeCreated?, payslipRequested?, hroute]
          exact hemits
        | health =>
          refine ⟨db, rfl, ?_⟩
          simp only [employeeCreated?, payslipRequested?, hroute]
          exact .nothing
      · exact ⟨db, rfl, emits_nothing context request (show 405 ≠ 201 by decide)
          (show 405 ≠ 202 by decide)⟩

end Api
end HrPipeline
