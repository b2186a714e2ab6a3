import HrPipeline.Database.Tables

/-!
# Listings of tables

The rows of a table as a reader sees them: cells in the order of the columns, and rows in the order
of the texts in their first two columns.
-/

namespace HrPipeline.Scenario

open HrPipeline.Calendar

/-- A cell of a listed row. -/
inductive Cell where
  | text (value : String)
  | number (value : Int)
  | time (value : Instant)
deriving DecidableEq

/-- A listed row: the texts of the first two columns, and the cells of the others. -/
structure ListedRow where
  first : String
  second : String
  others : List Cell
deriving DecidableEq

/-- All cells of a listed row. -/
def ListedRow.cells (row : ListedRow) : List Cell :=
  .text row.first :: .text row.second :: row.others

/-- Whether a row is listed before another one, or is equal to it in the first two columns. -/
def ListedRow.precedes (a b : ListedRow) : Bool :=
  a.first < b.first || (a.first = b.first && ¬ b.second < a.second)

/-- An employee as a listed row. -/
def listEmployee (employee : Employee) : ListedRow :=
  ⟨employee.companyId.text, employee.email, [
    .text employee.id.text, .text employee.firstName, .text employee.lastName,
    .time employee.createdAt, .time employee.updatedAt]⟩

/-- A salary as a listed row. -/
def listSalary (salary : Salary) : ListedRow :=
  ⟨salary.employeeId.text, salary.effectiveDate.text, [
    .text salary.companyId.text, .text salary.baseSalary.text, .time salary.createdAt]⟩

/-- A payroll as a listed row. -/
def listPayroll (payroll : Payroll) : ListedRow :=
  ⟨payroll.id.text, payroll.companyId.text, [
    .text payroll.periodStart.text, .text payroll.periodEnd.text, .text payroll.grossTotal.text,
    .text payroll.status, .time payroll.createdAt, .time payroll.updatedAt]⟩

/-- A payslip as a listed row. -/
def listPayslip (payslip : Payslip) : ListedRow :=
  ⟨payslip.payrollId.text, payslip.companyId.text, [
    .text payslip.grossTotal.text, .number payslip.revision, .time payslip.generatedAt]⟩

/-- The listing of the table with a name. -/
def listing? (db : Database) (name : String) : Option (List (List Cell)) :=
  let rows? := match name with
    | "employees" => some (db.employees.map listEmployee)
    | "salaries" => some (db.salaries.map listSalary)
    | "payrolls" => some (db.payrolls.map listPayroll)
    | "payslips" => some (db.payslips.map listPayslip)
    | _ => none
  rows?.map fun rows => (rows.mergeSort ListedRow.precedes).map ListedRow.cells

end HrPipeline.Scenario
