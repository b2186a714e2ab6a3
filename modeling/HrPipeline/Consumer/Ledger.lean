import HrPipeline.Consumer.Error
import HrPipeline.Calendar.Date
import HrPipeline.Database.Tables

/-!
# Effects in memory

A ledger keeps salaries, one for each employee and date, and counts the payslips generated for each
payroll.
-/

namespace HrPipeline.Consumer

open HrPipeline.Calendar

/-- A salary in the ledger. -/
structure LedgerSalary where
  companyId : Uuid
  employeeId : Uuid
  baseSalary : Decimal
  effectiveDate : Date
deriving DecidableEq

/-- Salaries in the order of their creation, and the number of payslips for each payroll. -/
structure Ledger where
  salaries : List LedgerSalary
  revisions : List (Uuid × Nat)
deriving DecidableEq

namespace Ledger

/-- A ledger without entries. -/
def empty : Ledger := ⟨[], []⟩

/-- Adds a salary, unless the employee has one from that date on. -/
def createSalary (ledger : Ledger) (salary : LedgerSalary) : Except EffectError Ledger :=
  if ledger.salaries.any fun s =>
      s.employeeId = salary.employeeId ∧ s.effectiveDate = salary.effectiveDate then
    .error (.duplicate Database.salaryKey)
  else .ok { ledger with salaries := ledger.salaries ++ [salary] }

/-- One payslip more in a list of counts. -/
def bump (payrollId : Uuid) : List (Uuid × Nat) → List (Uuid × Nat)
  | [] => [(payrollId, 1)]
  | (id, n) :: rest =>
    if id = payrollId then (id, n + 1) :: rest else (id, n) :: bump payrollId rest

/-- Counts a payslip of a payroll. -/
def generatePayslip (ledger : Ledger) (payrollId : Uuid) : Ledger :=
  { ledger with revisions := bump payrollId ledger.revisions }

/-- The counts in the order of the payrolls' written identifiers. -/
def sortedRevisions (ledger : Ledger) : List (Uuid × Nat) :=
  ledger.revisions.mergeSort fun a b => ¬ b.1.text < a.1.text

end Ledger
end HrPipeline.Consumer
