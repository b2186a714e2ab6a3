import HrPipeline.Event

/-!
# Kinds of consumers

A consumer either opens salaries for new employees or generates payslips. Each kind has its topic
and a group of its own.
-/

namespace HrPipeline

/-- What a consumer does. -/
inductive ConsumerKind where
  | salary
  | payslip
deriving DecidableEq

namespace ConsumerKind

/-- The topic that a consumer reads. -/
def topic : ConsumerKind → String
  | salary => employeeTopic
  | payslip => payslipTopic

/-- The group of a consumer that is not told another. -/
def defaultGroup : ConsumerKind → String
  | salary => "go-hris-employee-salary"
  | payslip => "go-hris-payslip"

/-- The command that starts a consumer. -/
def command : ConsumerKind → String
  | salary => "employee-salary"
  | payslip => "payslip"

/-- The name of a consumer. -/
def name : ConsumerKind → String
  | salary => "EmployeeSalary"
  | payslip => "Payslip"

/-- All kinds of consumers. -/
def all : List ConsumerKind := [salary, payslip]

/-- The consumer that a command starts. -/
def ofCommand? (command : String) : Option ConsumerKind := all.find? (·.command = command)

/-- Every consumer is started by its command. -/
theorem ofCommand?_command (kind : ConsumerKind) : ofCommand? kind.command = some kind := by
  cases kind <;> rfl

end ConsumerKind
end HrPipeline
