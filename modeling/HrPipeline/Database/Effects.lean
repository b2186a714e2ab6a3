import HrPipeline.Consumer.Error
import HrPipeline.Database.Tables

/-!
# Effects in the database

The two operations that the consumers' handlers call. A salary is inserted once per employee and
date; a payslip is generated anew each time and replaces the one before, whose identifier it keeps.
-/

namespace HrPipeline.Database

open HrPipeline.Calendar

/-- Gives an employee a salary from a date on. -/
def createSalary (db : Database) (now : Instant) (companyId employeeId : Uuid)
    (baseSalary : Decimal) (effectiveDate : Date) : Except EffectError Database :=
  let inserted := do
    checkDate effectiveDate
    let amount ← storedAmount baseSalary
    db.insertSalary ⟨companyId, employeeId, amount, effectiveDate, now⟩
  inserted.mapError fun error => .ofDatabase error salaryKey

/-- Generates the payslip of a payroll of a company; `id` is its identifier if it is the first. -/
def generatePayslip (db : Database) (now : Instant) (id companyId payrollId : Uuid) :
    Except EffectError Database :=
  match db.payroll? companyId payrollId with
  | none =>
    .error (.failed (.cause
      ("payroll " ++ payrollId.text ++ " not found for company " ++ companyId.text)))
  | some payroll =>
    (db.upsertPayslip id payroll now).mapError fun error => .failed (.cause error.message)

end HrPipeline.Database
