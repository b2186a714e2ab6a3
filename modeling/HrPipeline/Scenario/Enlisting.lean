import HrPipeline.Scenario.World

/-!
# Transactions in a scenario

Events are enlisted in transactions: all at once in one that commits at its end, or in memory one
by one in named transactions that stay open. An event that fails ends the former, and leaves the
latter as they were.
-/

namespace HrPipeline.Scenario

open HrPipeline.Calendar HrPipeline.Outbox

/-- An event to be enlisted. -/
inductive Item where
  /-- An event as it is, with its own identifier. -/
  | given (draft : Draft)
  /-- An event that is given a new identifier. -/
  | fresh (draft : Draft)
  /-- A new employee, by default of now and under the type's own name. -/
  | employeeCreated (employeeId companyId : Uuid) (requestId : Option String)
      (occurredAt : Option Instant) (eventType : Option String)
  /-- A requested payslip, by default of now and under the type's own name. -/
  | payslipRequested (payrollId companyId requestedBy : Uuid)
      (occurredAt : Option Instant) (eventType : Option String)
deriving DecidableEq

/-- The draft of an item, where `id` is the new identifier if one is needed. -/
def Item.draft (now : Instant) (id : Uuid) : Item → Draft
  | .given draft => draft
  | .fresh draft => { draft with id }
  | .employeeCreated employeeId companyId requestId occurredAt eventType =>
    let event := EmployeeCreated.new employeeId companyId requestId (occurredAt.getD now)
    Draft.ofEvent id { event with eventType := eventType.getD event.eventType }
  | .payslipRequested payrollId companyId requestedBy occurredAt eventType =>
    let event := PayslipRequested.new payrollId companyId requestedBy (occurredAt.getD now)
    Draft.ofEvent id { event with eventType := eventType.getD event.eventType }

/-- Stages drafts in a transaction; the first one that is refused ends it. -/
def stageAll (transaction : Transaction) (drafts : List Draft) :
    Except OutboxError Transaction :=
  drafts.foldlM Transaction.enlist transaction

/-- Appends drafts to the outbox of a database; the first one that is refused ends it. -/
def enlistAll (db : Database) (now : Instant) (drafts : List Draft) :
    Except OutboxError Database :=
  drafts.foldlM (fun db draft => db.enlist now draft) db

/-- The error of a caller that gives up at the end of a transaction. -/
def aborted : OutboxError := .invalidEvent "aborted by the caller"

/-- Fails if the caller gives up. -/
def checkAbort (abort : Bool) : Except OutboxError Unit := if abort then .error aborted else .ok ()

namespace World

/-- The drafts of items, each with the next identifier. -/
def drafts (items : List Item) (world : World) : List Draft × World :=
  match items with
  | [] => ([], world)
  | item :: items =>
    let (id, world) := world.issue
    let (rest, world) := drafts items world
    (item.draft world.clock id :: rest, world)

/-- Enlists drafts in one transaction; gives the storage after it. -/
def enlist (drafts : List Draft) (abort : Bool) (world : World) : Except OutboxError Storage :=
  match world.storage with
  | .memory store => do
    let transaction ← stageAll .empty drafts
    checkAbort abort
    .ok (.memory (store.commit transaction world.clock))
  | .database db mode maxAttempts => do
    let db ← enlistAll db world.databaseClock drafts
    checkAbort abort
    .ok (.database db mode maxAttempts)
  | .unreachable => .error Storage.noConnection

/-- Enlists items in one transaction; gives their identifiers. -/
def transact (items : List Item) (abort : Bool) (world : World) :
    Except OutboxError (List Uuid) × World :=
  let (drafts, world) := world.drafts items
  match world.enlist drafts abort with
  | .ok storage => (.ok (drafts.map (·.id)), { world with storage })
  | .error error => (.error error, world)

/-- Opens a transaction under a name. -/
def begin (name : String) (world : World) : World :=
  { world with transactions := setNamed name .empty world.transactions }

/-- Stages an item in an open transaction; gives its identifier. -/
def add (name : String) (item : Item) (world : World) : Except OutboxError Uuid × World :=
  let (id, world) := world.issue
  let draft := item.draft world.clock id
  match ((world.transactions.lookup name).getD .empty).enlist draft with
  | .ok transaction =>
    (.ok draft.id, { world with transactions := setNamed name transaction world.transactions })
  | .error error => (.error error, world)

/-- Ends an open transaction without effect. -/
def dropTransaction (name : String) (world : World) : World :=
  { world with transactions := dropNamed name world.transactions }

/-- Ends an open transaction and makes its drafts rows of a store in memory. The reading of the
clock and the appending of the rows are one step. -/
def commitTransaction (name : String) (world : World) : World :=
  let transaction := (world.transactions.lookup name).getD .empty
  match world.storage with
  | .memory store =>
    { world with storage := .memory (store.commit transaction world.clock) }.dropTransaction name
  | .database _ _ _ | .unreachable => world.dropTransaction name

end World
end HrPipeline.Scenario
