import HrPipeline.Proofs.Api.Drafts
import HrPipeline.Proofs.Api.Requests
import HrPipeline.Proofs.Database.Payslips
import HrPipeline.Proofs.Event.RoundTrip

/-!
# Requests are answered in whole

A new employee is stored together with the event that tells of it, or not at all, whichever
statement fails; so is the request for a payslip. The answer tells which: the status of success
comes with exactly one new row in each table concerned, and any other status with the storage as it
was. With the database within reach, what is there decides: an address that the company has already
is a conflict, and a payslip can be requested exactly of a payroll that the company has.
-/

namespace HrPipeline.Api

open HrPipeline.Json HrPipeline.Outbox HrPipeline.Text

/-- The identifiers of a context are as new as generated ones. -/
structure Context.Fresh (context : Context) (db : Database) : Prop where
  subject : ∀ employee ∈ db.employees, employee.id ≠ context.subject
  event : ∀ row ∈ db.outbox, row.id ≠ context.event
  nil : context.event ≠ Uuid.nil

/-- A valid request with texts free of U+0000 and within their columns. -/
structure CreateEmployee.Acceptable (request : CreateEmployee) : Prop where
  valid : request.check = .ok ()
  clean : ∀ s ∈ [request.firstName, request.lastName, request.email], '\x00' ∉ s.toList
  firstName : (trim request.firstName).toList.length ≤ 100
  lastName : (trim request.lastName).toList.length ≤ 100
  email : (lowerCase (trim request.email)).toList.length ≤ 255

/-- The address that a request asks for is one that the company has already. -/
def CreateEmployee.IsTaken (request : CreateEmployee) (db : Database) : Prop :=
  ∃ other ∈ db.employees, other.companyId = request.companyId ∧
    other.email = lowerCase (trim request.email)

/-- An employee as a request asks for, under an identifier that is new to the tables. -/
structure Hired (context : Context) (request : CreateEmployee) (db : Database)
    (employee : Employee) : Prop where
  id : employee.id = context.subject
  fresh : ∀ other ∈ db.employees, other.id ≠ employee.id
  companyId : employee.companyId = request.companyId
  firstName : employee.firstName = trim request.firstName
  lastName : employee.lastName = trim request.lastName
  email : employee.email = lowerCase (trim request.email)
  createdAt : employee.createdAt = context.now.toMicros
  updatedAt : employee.updatedAt = context.now.toMicros

/-- A row that waits for its first attempt, under an identifier that is new to the outbox, and
whose payload denotes the event. -/
structure Announces {ε : Type} [DomainEvent ε] (context : Context) (event : ε) (db : Database)
    (row : Row) : Prop where
  id : row.id = context.event
  fresh : ∀ other ∈ db.outbox, other.id ≠ row.id
  status : row.status = .pending
  retryCount : row.retryCount = 0
  unattempted : row.nextRetryAt = none ∧ row.processedAt = none ∧ row.errorMessage = none
  topic : row.topic = DomainEvent.topic ε
  aggregateType : row.aggregateType = DomainEvent.aggregateType ε
  aggregateId : row.aggregateId = DomainEvent.aggregateId event
  eventType : row.eventType = DomainEvent.recordedType event
  requestId : row.requestId = DomainEvent.requestId event
  payload : DomainEvent.decode row.payload = .ok event

/-- A draft of an event with a supported body becomes a row that announces the event. -/
private theorem announces_ofDraft {ε : Type} [DomainEvent ε] {context : Context} {event : ε}
    {db : Database} (hfresh : ¬ db.outbox.any (·.id = context.event) = true)
    (hbody : DomainEvent.decode (DomainEvent.encode event) = .ok event) :
    Announces context event db
      (Row.ofDraft (Draft.ofEvent context.event event) context.databaseNow.toMicros) where
  id := rfl
  fresh := by
    have h : ∀ other ∈ db.outbox, other.id ≠ context.event := by simpa using hfresh
    exact h
  status := rfl
  retryCount := rfl
  unattempted := ⟨rfl, rfl, rfl⟩
  topic := rfl
  aggregateType := rfl
  aggregateId := rfl
  eventType := rfl
  requestId := rfl
  payload := hbody

/-- The employee that an acceptable request asks for fits. -/
private theorem CreateEmployee.Acceptable.fits {request : CreateEmployee}
    (h : request.Acceptable) (context : Context) : (request.employee context).Fits where
  firstName := ⟨fun hm => h.clean _ (by simp) (mem_of_mem_trim hm), h.firstName⟩
  lastName := ⟨fun hm => h.clean _ (by simp) (mem_of_mem_trim hm), h.lastName⟩
  email := by
    refine ⟨fun hm => ?_, h.email⟩
    have hlower : '\x00' ∈ lowerFrom [] (trim request.email).toList := by
      simpa [CreateEmployee.employee, lowerCase] using hm
    exact h.clean _ (by simp) (mem_of_mem_trim (mem_of_mem_lowerFrom hlower (by decide)))

/-- What becomes of an employee that fits: it is refused for the sake of a key, or it is stored
together with its event. -/
private theorem insertEmployeeWithEvent_of_fits {context : Context} {headers : Headers}
    {request : CreateEmployee} (h : (request.employee context).Fits) (db : Database) :
    insertEmployeeWithEvent context (requestId headers) request db =
      if db.employees.any (·.id = context.subject) then
        .error (.ofDatabase (Database.refuseDuplicate "employees_pkey"))
      else if db.employees.any fun e => e.companyId = request.companyId ∧
          e.email = lowerCase (trim request.email) then
        .error (.ofDatabase (Database.refuseDuplicate "employees_company_id_email_key"))
      else if context.event = Uuid.nil then .error (.invalid "id is empty")
      else if db.outbox.any (·.id = context.event) then
        .error (.ofDatabase (Database.refuseDuplicate "outbox_events_pkey"))
      else .ok ((request.employee context).stored, { db with
        employees := db.employees ++ [(request.employee context).stored]
        outbox := db.outbox ++ [Row.ofDraft (Draft.ofEvent context.event
          (EmployeeCreated.new context.subject request.companyId (requestId headers) context.now))
          context.databaseNow.toMicros] }) := by
  have hpublish := fun db' => publish_of_fits db' context _
    (fits_employeeCreated context headers request.companyId) rfl
  have hinsert : db.insertEmployee (request.employee context) =
      if db.employees.any (·.id = context.subject) then
        .error (Database.refuseDuplicate "employees_pkey")
      else if db.employees.any fun e => e.companyId = request.companyId ∧
          e.email = lowerCase (trim request.email) then
        .error (Database.refuseDuplicate "employees_company_id_email_key")
      else .ok ((request.employee context).stored, { db with
        employees := db.employees ++ [(request.employee context).stored] }) :=
    Database.insertEmployee_of_fits db h
  unfold insertEmployeeWithEvent
  rw [hinsert]
  by_cases hid : db.employees.any (·.id = context.subject) = true
  · rw [if_pos hid, if_pos hid]
    rfl
  rw [if_neg hid, if_neg hid]
  by_cases htaken : (db.employees.any fun e => e.companyId = request.companyId ∧
      e.email = lowerCase (trim request.email)) = true
  · rw [if_pos htaken, if_pos htaken]
    rfl
  rw [if_neg htaken, if_neg htaken]
  show ((Database.publish _ context.databaseNow context.event _).mapError ApiError.ofOutbox >>=
    fun _ => _) = _
  rw [hpublish]
  by_cases hnil : context.event = Uuid.nil
  · rw [if_pos hnil, if_pos hnil]
    rfl
  rw [if_neg hnil, if_neg hnil]
  by_cases hevent : db.outbox.any (·.id = context.event) = true
  · rw [if_pos hevent, if_pos hevent]
    rfl
  rw [if_neg hevent, if_neg hevent]
  rfl

/-- An employee that is stored is the one that was asked for, and its event is announced. -/
private theorem hired_of_insertEmployeeWithEvent {context : Context} (hnow : context.now.Valid)
    {headers : Headers} {request : CreateEmployee} {db after : Database} {employee : Employee}
    (h : insertEmployeeWithEvent context (requestId headers) request db = .ok (employee, after)) :
    ∃ row, after = { db with
        employees := db.employees ++ [employee], outbox := db.outbox ++ [row] } ∧
      Hired context request db employee ∧
      Announces context (EmployeeCreated.new context.subject request.companyId
        (requestId headers) context.now) db row := by
  have hfits : (request.employee context).Fits := by
    unfold insertEmployeeWithEvent at h
    cases hi : db.insertEmployee (request.employee context) with
    | error error =>
      rw [hi] at h
      cases h
    | ok result =>
      exact Database.fits_of_insertEmployee (getLast?_trim_ne _) (getLast?_trim_ne _)
        (getLast?_lowerCase_trim_ne _) hi
  rw [insertEmployeeWithEvent_of_fits hfits] at h
  split at h
  · cases h
  next hid =>
  split at h
  · cases h
  split at h
  · cases h
  split at h
  · cases h
  next hevent =>
  obtain ⟨rfl, rfl⟩ := Prod.mk.inj (Except.ok.inj h)
  refine ⟨_, rfl, ?_, announces_ofDraft hevent (EmployeeCreated.decode_encode hnow)⟩
  have hfresh : ∀ other ∈ db.employees, other.id ≠ context.subject := by simpa using hid
  exact ⟨rfl, hfresh, rfl, rfl, rfl, rfl, rfl, rfl⟩

/-- What becomes of a request for a payslip: it is refused, or its event is published. -/
private theorem publishPayslipRequest_eq (context : Context) (payrollId : Uuid)
    (request : RequestPayslip) (db : Database) :
    publishPayslipRequest context payrollId request db =
      if (db.payroll? request.companyId payrollId).isNone then
        .error (.notFound ("payroll " ++ payrollId.text ++ " not found"))
      else if context.event = Uuid.nil then .error (.invalid "id is empty")
      else if db.outbox.any (·.id = context.event) then
        .error (.ofDatabase (Database.refuseDuplicate "outbox_events_pkey"))
      else .ok (context.event, { db with
        outbox := db.outbox ++ [Row.ofDraft (Draft.ofEvent context.event
          (PayslipRequested.new payrollId request.companyId request.requestedBy context.now))
          context.databaseNow.toMicros] }) := by
  have hpublish := publish_of_fits db context _ (fits_payslipRequested context payrollId request)
    rfl
  unfold publishPayslipRequest
  cases db.payroll? request.companyId payrollId with
  | none => rfl
  | some payroll =>
    simp only [hpublish, Option.isNone_some, Bool.false_eq_true, if_false]
    by_cases hnil : context.event = Uuid.nil
    · rw [if_pos hnil, if_pos hnil]
      rfl
    rw [if_neg hnil, if_neg hnil]
    by_cases hevent : db.outbox.any (·.id = context.event) = true
    · rw [if_pos hevent, if_pos hevent]
      rfl
    · rw [if_neg hevent, if_neg hevent]

/-- The status of a refusal is none of success. -/
private theorem status_response (error : ApiError) :
    error.response.status ≠ 201 ∧ error.response.status ≠ 202 := by
  show error.status ≠ 201 ∧ error.status ≠ 202
  cases error <;> simp [ApiError.status]

/-- The answer to a request for a new employee, with what it leaves behind. -/
structure AnswersEmployee (outage : Outage) (context : Context) (headers : Headers)
    (request : CreateEmployee) (storage : Storage) (served : Served) : Prop where
  /-- Everything is stored, or nothing. -/
  atomic :
    (served.response.status = 201 ∧ ∃ db employee row, storage.tables? = some db ∧
      served.storage = storage.withTables { db with
        employees := db.employees ++ [employee], outbox := db.outbox ++ [row] } ∧
      served.response = .json 201 (employeeMembers employee) ∧
      Hired context request db employee ∧
      Announces context (EmployeeCreated.new context.subject request.companyId
        (requestId headers) context.now) db row) ∨
    (served.response.status ≠ 201 ∧ served.storage = storage)
  /-- An address that is taken is a conflict. -/
  conflict : ∀ db, outage = .none → storage.tables? = some db → request.Acceptable →
    request.IsTaken db → served.response.status = 409 ∧ served.storage = storage
  /-- Any other acceptable request succeeds. -/
  success : ∀ db, outage = .none → storage.tables? = some db → request.Acceptable →
    context.Fresh db → ¬ request.IsTaken db → served.response.status = 201

/-- The answer to a request for a payslip, with what it leaves behind. -/
structure AnswersPayslip (outage : Outage) (context : Context) (payrollId : Uuid)
    (request : RequestPayslip) (storage : Storage) (served : Served) : Prop where
  /-- The request is published for a payroll of the company, or nothing is stored. -/
  atomic :
    (served.response.status = 202 ∧ ∃ db row, storage.tables? = some db ∧
      (∃ payroll ∈ db.payrolls, payroll.id = payrollId ∧ payroll.companyId = request.companyId) ∧
      served.storage = storage.withTables { db with outbox := db.outbox ++ [row] } ∧
      served.response = .json 202 (payslipMembers payrollId row.id) ∧
      Announces context (PayslipRequested.new payrollId request.companyId request.requestedBy
        context.now) db row) ∨
    (served.response.status ≠ 202 ∧ served.storage = storage)
  /-- With the database within reach, the payroll decides. -/
  decided : ∀ db, outage = .none → storage.tables? = some db → context.Fresh db →
    (served.response.status = 202 ↔ ∃ payroll ∈ db.payrolls,
      payroll.id = payrollId ∧ payroll.companyId = request.companyId)
  /-- A payroll that the company does not have is not found. -/
  missing : ∀ db, outage = .none → storage.tables? = some db →
    (¬ ∃ payroll ∈ db.payrolls, payroll.id = payrollId ∧ payroll.companyId = request.companyId) →
    served.response.status = 404 ∧ served.storage = storage

/-- With the database within reach, an acceptable employee is served by its two statements. -/
private theorem serveEmployees_of_acceptable {context : Context} {request : Request}
    {row : Row CreateEmployee.shape.fields}
    (hbody : jsonBody CreateEmployee.shape request = .ok row)
    (h : (CreateEmployee.ofRow row).Acceptable) {storage : Storage} {db : Database}
    (ht : storage.tables? = some db) :
    serveEmployees context request storage =
      conclude storage 201 .employeeCreated employeeMembers
        ((insertEmployeeWithEvent context (requestId request.headers) (.ofRow row) db).map
          fun result => (result.1, storage.withTables result.2)) := by
  unfold serveEmployees createEmployee transact
  simp only [hbody, unlessRejected, h.valid, bind, Except.bind, ht]

/-- A request for a new employee is answered in whole. -/
theorem answersEmployee (outage : Outage) {context : Context} (hnow : context.now.Valid)
    (storage : Storage) {request : Request} {row : Row CreateEmployee.shape.fields}
    (hbody : jsonBody CreateEmployee.shape request = .ok row) :
    AnswersEmployee outage context request.headers (.ofRow row) storage
      (serveEmployeesUnder outage context request storage) where
  atomic := by
    unfold serveEmployeesUnder createEmployeeUnder
    simp only [hbody, unlessRejected]
    cases (CreateEmployee.ofRow row).check with
    | error error => exact .inr ⟨(status_response error).1, rfl⟩
    | ok _ =>
      rcases (carriesOut_hiring context (requestId request.headers)
        (.ofRow row)).onStorage outage storage with
        ⟨error, hrun⟩ | ⟨db, employee, after, ht, hchange, hrun⟩
      · rw [hrun]
        exact .inr ⟨(status_response error).1, rfl⟩
      · rw [hrun]
        obtain ⟨stored, rfl, hhired, hannounced⟩ :=
          hired_of_insertEmployeeWithEvent hnow hchange
        exact .inl ⟨rfl, db, employee, stored, ht, rfl, rfl, hhired, hannounced⟩
  conflict db hnone ht hacceptable htaken := by
    rw [hnone, serveEmployeesUnder_none, serveEmployees_of_acceptable hbody hacceptable ht,
      insertEmployeeWithEvent_of_fits (hacceptable.fits context)]
    have hany : (db.employees.any fun e => e.companyId = (CreateEmployee.ofRow row).companyId ∧
        e.email = lowerCase (trim (CreateEmployee.ofRow row).email)) = true := by
      simpa [CreateEmployee.IsTaken] using htaken
    by_cases hid : db.employees.any (·.id = context.subject) = true
    · rw [if_pos hid]
      exact ⟨rfl, rfl⟩
    · rw [if_neg hid, if_pos hany]
      exact ⟨rfl, rfl⟩
  success db hnone ht hacceptable hfresh htaken := by
    rw [hnone, serveEmployeesUnder_none, serveEmployees_of_acceptable hbody hacceptable ht,
      insertEmployeeWithEvent_of_fits (hacceptable.fits context), if_neg, if_neg,
      if_neg hfresh.nil, if_neg]
    · rfl
    · simpa using hfresh.event
    · simpa [CreateEmployee.IsTaken] using htaken
    · simpa using hfresh.subject

/-- With the database within reach, a payslip is requested by its two statements. -/
private theorem servePayslips_eq {context : Context} {segment : String} {payrollId : Uuid}
    {request : Request} {row : Row RequestPayslip.shape.fields}
    (hid : identifier segment = .ok payrollId)
    (hbody : jsonBody RequestPayslip.shape request = .ok row) {storage : Storage} {db : Database}
    (ht : storage.tables? = some db) :
    servePayslips context segment request storage =
      conclude storage 202 .payslipRequested (payslipMembers payrollId)
        ((publishPayslipRequest context payrollId (.ofRow row) db).map
          fun result => (result.1, storage.withTables result.2)) := by
  unfold servePayslips requestPayslip transact
  simp only [hid, hbody, unlessRejected, ht]

/-- A request for a payslip is answered in whole. -/
theorem answersPayslip (outage : Outage) {context : Context} (hnow : context.now.Valid)
    (storage : Storage) {request : Request} {segment : String} {payrollId : Uuid}
    {row : Row RequestPayslip.shape.fields} (hid : identifier segment = .ok payrollId)
    (hbody : jsonBody RequestPayslip.shape request = .ok row) :
    AnswersPayslip outage context payrollId (.ofRow row) storage
      (servePayslipsUnder outage context segment request storage) where
  atomic := by
    unfold servePayslipsUnder requestPayslipUnder
    simp only [hid, hbody, unlessRejected]
    rcases (carriesOut_requesting context payrollId (.ofRow row)).onStorage outage storage with
      ⟨error, hrun⟩ | ⟨db, eventId, after, ht, hchange, hrun⟩
    · rw [hrun]
      exact .inr ⟨(status_response error).2, rfl⟩
    · rw [hrun]
      rw [publishPayslipRequest_eq] at hchange
      split at hchange
      · cases hchange
      next hsome =>
      split at hchange
      · cases hchange
      split at hchange
      · cases hchange
      next hevent =>
      obtain ⟨rfl, rfl⟩ := Prod.mk.inj (Except.ok.inj hchange)
      have hpayroll := (Database.payroll?_isSome_iff db (RequestPayslip.ofRow row).companyId payrollId).mp
        (by simpa [Option.isSome_iff_ne_none] using hsome)
      exact .inl ⟨rfl, db, _, ht, hpayroll, rfl, rfl,
        announces_ofDraft hevent (PayslipRequested.decode_encode hnow)⟩
  decided db hnone ht hfresh := by
    rw [hnone, servePayslipsUnder_none, servePayslips_eq hid hbody ht, publishPayslipRequest_eq,
      ← Database.payroll?_isSome_iff]
    cases db.payroll? (RequestPayslip.ofRow row).companyId payrollId with
    | none =>
      constructor
      · intro h
        exact absurd h (show ¬ 404 = 202 by decide)
      · intro h
        cases h
    | some payroll =>
      rw [if_neg (by simp), if_neg hfresh.nil, if_neg (by simpa using hfresh.event)]
      exact ⟨fun _ => rfl, fun _ => rfl⟩
  missing db hnone ht hmissing := by
    rw [hnone, servePayslipsUnder_none, servePayslips_eq hid hbody ht, publishPayslipRequest_eq,
      if_pos]
    · exact ⟨rfl, rfl⟩
    · rw [← Database.payroll?_isSome_iff] at hmissing
      simpa using hmissing

/-- The request for a payslip of that company. -/
def payslipOfSeven : Row RequestPayslip.shape.fields := (Uuid.reserved 7, Uuid.reserved 8, ())

/-- A request whose body is a written row. -/
def written (shape : Shape) (row : Row shape.fields) : Request :=
  ⟨"POST", "", [("content-type", utf8 "application/json"), ("x-request-id", utf8 " r ")],
    utf8 (mapText (Row.members shape.fields row))⟩

/-- The tables of a company with one payroll. -/
def onePayroll : Database :=
  { Database.empty with
    payrolls := [⟨Uuid.reserved 9, Uuid.reserved 7, ⟨0⟩, ⟨30⟩, Amount.zero, "draft", ⟨0, 0⟩,
      ⟨0, 0⟩⟩] }

/-- A working day. -/
def workday : Context := ⟨⟨1700000000, 0⟩, ⟨1700000000, 0⟩, Uuid.reserved 1, Uuid.reserved 2⟩

end HrPipeline.Api
