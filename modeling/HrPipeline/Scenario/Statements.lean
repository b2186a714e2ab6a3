import HrPipeline.Scenario.World

/-!
# Statements in a scenario

Plain statements that a scenario runs on the tables, to have employees and payrolls that no request
created and to change what no operation changes. Each gives the number of rows it affects.
-/

namespace HrPipeline.Scenario

open HrPipeline.Calendar

/-- A statement on the tables. -/
inductive Statement where
  | addEmployee (id companyId : Uuid) (email : String)
  | addPayroll (id companyId : Uuid) (grossTotal : Decimal)
  | setGross (payrollId : Uuid) (grossTotal : Decimal)
  | setCreated (rowId : Uuid) (createdAt : Instant)
  | setRetryCount (rowId : Uuid) (retryCount : Int)
deriving DecidableEq

/-- The items that satisfy a condition, changed; and how many they are. -/
def changeWhere {α : Type} (condition : α → Bool) (change : α → α) (items : List α) :
    Nat × List α :=
  (items.countP condition, items.map fun item => if condition item then change item else item)

/-- The refusal of a negative number of attempts. -/
def negativeRetryCount : DatabaseError :=
  Database.refuseCheck "outbox_events" "outbox_events_retry_count_check"

/-- The employee that a statement adds. -/
def sampleEmployee (id companyId : Uuid) (email : String) (now : Instant) : Employee :=
  ⟨id, companyId, "Ada", "Lovelace", email, now, now⟩

/-- The payroll that a statement adds: for April 2026. -/
def samplePayroll (id companyId : Uuid) (grossTotal : Amount) (now : Instant) : Payroll :=
  ⟨id, companyId, Civil.toDate ⟨2026, 4, 1⟩, Civil.toDate ⟨2026, 4, 30⟩, grossTotal, "draft",
    now, now⟩

/-- Runs a statement at an instant; gives the number of rows and the tables after it. -/
def Statement.run (now : Instant) (db : Database) :
    Statement → Except DatabaseError (Nat × Database)
  | .addEmployee id companyId email =>
    (db.insertEmployee (sampleEmployee id companyId email now)).map fun result => (1, result.2)
  | .addPayroll id companyId grossTotal => do
    let amount ← Database.storedAmount grossTotal
    let (_, db) ← db.insertPayroll (samplePayroll id companyId amount now)
    .ok (1, db)
  | .setGross payrollId grossTotal => do
    let amount ← Database.storedAmount grossTotal
    let (n, payrolls) :=
      changeWhere (·.id = payrollId) ({ · with grossTotal := amount }) db.payrolls
    .ok (n, { db with payrolls })
  | .setCreated rowId createdAt =>
    let stored := createdAt.toMicros
    let (n, outbox) := changeWhere (·.id = rowId)
      ({ · with createdAt := stored, updatedAt := stored }) db.outbox
    .ok (n, { db with outbox })
  | .setRetryCount rowId retryCount =>
    let (n, outbox) := changeWhere (·.id = rowId) ({ · with retryCount }) db.outbox
    if retryCount < 0 ∧ 0 < n then .error negativeRetryCount else .ok (n, { db with outbox })

/-- Runs a statement on the tables of the world. -/
def World.execute (statement : Statement) (world : World) : Except OutboxError Nat × World :=
  match world.storage.tables? with
  | none => (.error Storage.noConnection, world)
  | some db =>
    match statement.run world.clock db with
    | .ok (n, db) => (.ok n, { world with storage := world.storage.withTables db })
    | .error error => (.error (.database error), world)

end HrPipeline.Scenario
