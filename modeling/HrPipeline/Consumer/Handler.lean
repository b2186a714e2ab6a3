import HrPipeline.Calendar.Instant
import HrPipeline.Consumer.Error
import HrPipeline.Database.Amount
import HrPipeline.Event
import HrPipeline.Notice

/-!
# Handlers

What is done about an event: a new employee gets a salary of zero from today on, and a requested
payslip is generated. A handler works on any domain that offers these two operations.
-/

namespace HrPipeline.Consumer

open HrPipeline.Calendar

/-- The operations behind the handlers, each of which may change the state `σ`. -/
structure Domain (σ : Type) where
  /-- Gives an employee of a company a salary from a date on. -/
  createSalary : Uuid → Uuid → Decimal → Date → σ → Except EffectError Unit × σ
  /-- Generates the payslip of a payroll of a company. -/
  generatePayslip : Uuid → Uuid → σ → Except EffectError Unit × σ
  /-- The current day. -/
  today : σ → Date
  note : Notice → σ → σ

variable {σ : Type}

/-- Reports an effect that was applied. -/
def noted (domain : Domain σ) (notice : Notice) :
    Except EffectError Unit × σ → Except EffectError Unit × σ
  | (.ok (), s) => (.ok (), domain.note notice s)
  | (.error error, s) => (.error error, s)

/-- Opens a salary of zero for a new employee. -/
def handleEmployeeCreated (domain : Domain σ) (event : EmployeeCreated) (s : σ) :
    Except EffectError Unit × σ :=
  noted domain .salaryCreated
    (domain.createSalary event.companyId event.employeeId ⟨0, 0⟩ (domain.today s) s)

/-- Generates the payslip that was requested. -/
def handlePayslipRequested (domain : Domain σ) (event : PayslipRequested) (s : σ) :
    Except EffectError Unit × σ :=
  noted domain .payslipGenerated (domain.generatePayslip event.companyId event.payrollId s)

end HrPipeline.Consumer
