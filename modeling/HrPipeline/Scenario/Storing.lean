import HrPipeline.Scenario.World

/-!
# The storage and the broker in a scenario

Calls that go straight to the storage or the broker of the world, where no fault gets in their way.
-/

namespace HrPipeline.Scenario.World

open HrPipeline.Broker HrPipeline.Calendar

/-- Claims rows of the storage. -/
def claimRows (limit : Int) (world : World) : Except OutboxError (List Outbox.Row) × World :=
  match world.storage.claim limit world.clock with
  | .ok (rows, storage, notices) => (.ok rows, { world with storage }.noteAll notices)
  | .error error => (.error error, world)

/-- Keeps the result of a call of the storage. -/
def keep (world : World) : Except OutboxError Storage → Except OutboxError Unit × World
  | .ok storage => (.ok (), { world with storage })
  | .error error => (.error error, world)

/-- Records that the message of a row was accepted. -/
def recordSent (id : Uuid) (world : World) : Except OutboxError Unit × World :=
  world.keep (world.storage.markSent id world.clock)

/-- Records a failed attempt to send the message of a row. -/
def recordFailed (id : Uuid) (reason : String) (world : World) :
    Except OutboxError Unit × World :=
  world.keep (world.storage.markFailed id reason world.clock)

/-- Hands a message to the broker. -/
def deliver (message : Outbound) (world : World) : Except BrokerError Unit × World :=
  match world.broker.send message with
  | .ok broker => (.ok (), { world with broker })
  | .error error => (.error error, world)

/-- Keeps the result of an effect on the tables, and reports it. -/
def keepTables (notice : Notice) (world : World) :
    Except EffectError Database → Except EffectError Unit × World
  | .ok db => (.ok (), { world with storage := world.storage.withTables db }.note notice)
  | .error error => (.error error, world)

/-- Gives an employee a salary in the database. -/
def createSalary (companyId employeeId : Uuid) (baseSalary : Decimal) (effectiveDate : Date)
    (world : World) : Except EffectError Unit × World :=
  match world.storage.tables? with
  | none => (.error Storage.noEffect, world)
  | some db =>
    world.keepTables .salaryInserted
      (db.createSalary world.clock companyId employeeId baseSalary effectiveDate)

/-- Generates a payslip in the database, under an identifier that no payslip has. -/
def generatePayslip (companyId payrollId : Uuid) (world : World) :
    Except EffectError Unit × World :=
  match world.storage.tables? with
  | none => (.error Storage.noEffect, world)
  | some db =>
    let id := Uuid.unused (db.payslips.map (·.id))
    world.keepTables .payslipStored (db.generatePayslip world.clock id companyId payrollId)

end HrPipeline.Scenario.World
