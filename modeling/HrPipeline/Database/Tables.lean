import HrPipeline.Calendar.Instant
import HrPipeline.Database.Amount
import HrPipeline.Database.Error
import HrPipeline.Outbox.Row

/-!
# Tables of the database

The tables of `SPEC_FULL.md` §10.3 with the constraints that the database enforces. An inserting
statement checks its texts and numbers first, in the order of the columns, then the row as a whole,
then unique constraints and last references to other tables. Instants are stored in whole
microseconds.
-/

namespace HrPipeline

open HrPipeline.Calendar

/-- A person employed by a company. -/
structure Employee where
  id : Uuid
  companyId : Uuid
  firstName : String
  lastName : String
  email : String
  createdAt : Instant
  updatedAt : Instant
deriving DecidableEq

/-- The salary of an employee from a date on. -/
structure Salary where
  companyId : Uuid
  employeeId : Uuid
  baseSalary : Amount
  effectiveDate : Date
  createdAt : Instant
deriving DecidableEq

/-- A period for which a company pays. -/
structure Payroll where
  id : Uuid
  companyId : Uuid
  periodStart : Date
  periodEnd : Date
  grossTotal : Amount
  status : String
  createdAt : Instant
  updatedAt : Instant
deriving DecidableEq

/-- The payslip of a payroll; generating it again raises its revision and keeps its identifier. -/
structure Payslip where
  id : Uuid
  companyId : Uuid
  payrollId : Uuid
  grossTotal : Amount
  revision : Int
  generatedAt : Instant
deriving DecidableEq

/-- The contents of all tables, each in the order of insertion. -/
structure Database where
  outbox : List Outbox.Row
  employees : List Employee
  salaries : List Salary
  payrolls : List Payroll
  payslips : List Payslip
deriving DecidableEq

namespace Database

/-- A database whose tables are empty. -/
def empty : Database := ⟨[], [], [], [], []⟩

/-- A refusal that names no constraint. -/
def refuse (message : String) : DatabaseError := .refused .other message none

/-- The refusal by a unique constraint. -/
def refuseDuplicate (constraint : String) : DatabaseError :=
  .refused .unique ("duplicate key value violates unique constraint \"" ++ constraint ++ "\"")
    (some constraint)

/-- The refusal by a check of the rows of a table. -/
def refuseCheck (table constraint : String) : DatabaseError :=
  .refused .check
    ("new row for relation \"" ++ table ++ "\" violates check constraint \"" ++ constraint ++ "\"")
    (some constraint)

/-- The unique key of salaries: one per employee and date. -/
def salaryKey : String := "employee_salaries_employee_id_effective_date_key"

/-- A text as a column of limited width stores it: surplus spaces at its end are cut, and any
other surplus is refused. -/
def fit (width : Nat) (s : String) : Except DatabaseError String :=
  let cs := s.toList
  if cs.length ≤ width then .ok s
  else if (cs.drop width).all (· = ' ') then .ok (String.ofList (cs.take width))
  else .error (refuse ("value too long for type character varying(" ++ toString width ++ ")"))

/-- Refuses texts with the character U+0000. -/
def checkTexts (texts : List String) : Except DatabaseError Unit :=
  if texts.any fun s => s.toList.contains '\x00' then
    .error (refuse "invalid byte sequence for encoding \"UTF8\": 0x00")
  else .ok ()

/-- The first day that the database can store. -/
def firstStoredDay : Date := ⟨-2440588⟩

/-- Refuses a date that the database cannot store. -/
def checkDate (date : Date) : Except DatabaseError Unit :=
  if date.epochDay < firstStoredDay.epochDay then .error (refuse "date out of range") else .ok ()

/-- The first instant that the database can store. -/
def firstStoredInstant : Instant := ⟨86400 * firstStoredDay.epochDay, 0⟩

/-- An instant that the database can store. It stores instants up to years that no clock reads. -/
def Accepts (t : Instant) : Prop := firstStoredInstant ≤ t.toMicros

instance (t : Instant) : Decidable (Accepts t) :=
  inferInstanceAs (Decidable (firstStoredInstant ≤ t.toMicros))

/-- The refusal of an instant that the database cannot store. -/
def outOfRange : DatabaseError := refuse "timestamp out of range"

/-- Inserts an employee. -/
def insertEmployee (db : Database) (employee : Employee) :
    Except DatabaseError (Employee × Database) := do
  checkTexts [employee.firstName, employee.lastName, employee.email]
  let firstName ← fit 100 employee.firstName
  let lastName ← fit 100 employee.lastName
  let email ← fit 255 employee.email
  let stored : Employee := { employee with
    firstName, lastName, email,
    createdAt := employee.createdAt.toMicros, updatedAt := employee.updatedAt.toMicros }
  if db.employees.any (·.id = stored.id) then .error (refuseDuplicate "employees_pkey")
  else if db.employees.any fun e => e.companyId = stored.companyId ∧ e.email = stored.email then
    .error (refuseDuplicate "employees_company_id_email_key")
  else .ok (stored, { db with employees := db.employees ++ [stored] })

/-- Inserts a payroll. -/
def insertPayroll (db : Database) (payroll : Payroll) :
    Except DatabaseError (Payroll × Database) := do
  checkDate payroll.periodStart
  checkDate payroll.periodEnd
  let stored : Payroll := { payroll with
    createdAt := payroll.createdAt.toMicros, updatedAt := payroll.updatedAt.toMicros }
  if stored.periodEnd.epochDay < stored.periodStart.epochDay then
    .error (refuseCheck "payrolls" "payrolls_check")
  else if db.payrolls.any (·.id = stored.id) then .error (refuseDuplicate "payrolls_pkey")
  else .ok (stored, { db with payrolls := db.payrolls ++ [stored] })

/-- Inserts a salary. -/
def insertSalary (db : Database) (salary : Salary) : Except DatabaseError Database :=
  let stored := { salary with createdAt := salary.createdAt.toMicros }
  if db.salaries.any fun s =>
      s.employeeId = stored.employeeId ∧ s.effectiveDate = stored.effectiveDate then
    .error (refuseDuplicate salaryKey)
  else if db.employees.any (·.id = stored.employeeId) then
    .ok { db with salaries := db.salaries ++ [stored] }
  else
    .error (.refused .foreignKey
      ("insert or update on table \"employee_salaries\" violates foreign key constraint "
        ++ "\"employee_salaries_employee_id_fkey\"")
      (some "employee_salaries_employee_id_fkey"))

/-- The amount of a decimal number as the database stores it. -/
def storedAmount (d : Decimal) : Except DatabaseError Amount :=
  match Amount.ofDecimal? d with
  | some amount => .ok amount
  | none => .error (refuse "numeric field overflow")

/-- The greatest number that a column of whole numbers holds. -/
def maxInteger : Int := 2147483647

/-- The payroll of a company with an identifier. -/
def payroll? (db : Database) (companyId payrollId : Uuid) : Option Payroll :=
  db.payrolls.find? fun p => p.id = payrollId ∧ p.companyId = companyId

/-- The first payslip of a payroll. -/
def firstPayslip (id : Uuid) (payroll : Payroll) (now : Instant) : Payslip :=
  ⟨id, payroll.companyId, payroll.id, payroll.grossTotal, 1, now.toMicros⟩

/-- The payslip of a payroll after it is generated again. -/
def nextPayslip (payroll : Payroll) (now : Instant) (slip : Payslip) : Payslip :=
  { slip with
    grossTotal := payroll.grossTotal, revision := slip.revision + 1, generatedAt := now.toMicros }

/-- Replaces the payslip of a payroll by its next revision, or adds the first one under a new
identifier. -/
def upsertPayslip (db : Database) (id : Uuid) (payroll : Payroll) (now : Instant) :
    Except DatabaseError Database :=
  match db.payslips.find? (·.payrollId = payroll.id) with
  | none =>
    if db.payslips.any (·.id = id) then .error (refuseDuplicate "payslips_pkey")
    else .ok { db with payslips := db.payslips ++ [firstPayslip id payroll now] }
  | some slip =>
    if maxInteger ≤ slip.revision then .error (refuse "integer out of range")
    else .ok { db with
      payslips := db.payslips.map fun s =>
        if s.payrollId = payroll.id then nextPayslip payroll now s else s }

end Database
end HrPipeline
