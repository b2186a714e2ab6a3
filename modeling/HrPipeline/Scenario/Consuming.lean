import HrPipeline.Consumer.Handler
import HrPipeline.Consumer.Loop
import HrPipeline.Scenario.Storing
import HrPipeline.Scenario.Timeline

/-!
# Consumers in a scenario

A consumer reads the broker of the world and applies its effects to its own ledger, or to the
database where the storage is one. In a run its rounds are repeated in virtual time: `between` lets
time pass and incidents happen until the next round.
-/

namespace HrPipeline.Scenario

open HrPipeline.Broker HrPipeline.Calendar HrPipeline.Consumer

/-- A consumer at work in the world. -/
structure Bench where
  world : World
  worker : Worker
  /-- When its run began. -/
  start : Instant
  /-- How many milliseconds its run lasts. -/
  duration : Nat
  /-- What is still to happen in its run. -/
  timeline : Timeline

namespace Bench

/-- Reports a notice. -/
def note (notice : Notice) (bench : Bench) : Bench :=
  { bench with world := bench.world.note notice }

/-- Fetches the next message, if there is one. -/
def fetch (bench : Bench) : Option (Except BrokerError Inbound) × Bench :=
  let worker := bench.worker
  if 0 < worker.fetchFailures then
    (some (.error (.fetch worker.source.topic "broker transport failure")),
      { bench with worker := { worker with fetchFailures := worker.fetchFailures - 1 } })
  else
    match worker.source.fetch? bench.world.broker with
    | some (message, source) =>
      (some (.ok message), { bench with worker := { worker with source } })
    | none => (none, bench)

/-- Commits a message for the group of the consumer. -/
def commit (message : Inbound) (bench : Bench) : Except BrokerError Unit × Bench :=
  let worker := bench.worker
  if 0 < worker.commitFailures then
    (.error (.commit message.topic message.partition message.offset "coordinator not available"),
      { bench with worker := { worker with commitFailures := worker.commitFailures - 1 } })
  else
    let world := bench.world
    (.ok (), { bench with
      world := { world with broker := world.broker.commit worker.source.group message } })

/-- Rewinds the source of the consumer to a message. -/
def rewind (message : Inbound) (bench : Bench) : Except BrokerError Unit × Bench :=
  let worker := bench.worker
  if 0 < worker.seekFailures then
    (.error (.seek message.topic message.partition message.offset "partition not assigned"),
      { bench with worker := { worker with seekFailures := worker.seekFailures - 1 } })
  else
    (.ok (), { bench with worker := { worker with source := worker.source.rewind message } })

/-- Logs the call of an effect and its result. -/
def logCall (id : Uuid) (result : Except EffectError Unit) (bench : Bench) : Bench :=
  let worker := bench.worker
  { bench with
    worker := { worker with calls := worker.calls ++ [⟨bench.world.elapsed, id, result⟩] } }

/-- Applies an effect, unless it is to fail, and logs the call. -/
def call (id : Uuid) (effect : Bench → Except EffectError Unit × Bench) (bench : Bench) :
    Except EffectError Unit × Bench :=
  let worker := bench.worker
  let (result, bench) :=
    if 0 < worker.failures then
      (.error (.failed (.cause "database is restarting")),
        { bench with worker := { worker with failures := worker.failures - 1 } })
    else effect bench
  (result, bench.logCall id result)

/-- Keeps the result of an effect on the ledger. -/
def keepLedger (bench : Bench) : Except EffectError Ledger → Except EffectError Unit × Bench
  | .ok ledger => (.ok (), { bench with worker := { bench.worker with ledger } })
  | .error error => (.error error, bench)

/-- Applies an effect to the world. -/
def onWorld (effect : World → Except EffectError Unit × World) (bench : Bench) :
    Except EffectError Unit × Bench :=
  let (result, world) := effect bench.world
  (result, { bench with world })

/-- Gives an employee a salary where the consumer keeps them. -/
def createSalary (companyId employeeId : Uuid) (baseSalary : Decimal) (effectiveDate : Date)
    (bench : Bench) : Except EffectError Unit × Bench :=
  match bench.world.storage with
  | .memory _ =>
    bench.keepLedger
      (bench.worker.ledger.createSalary ⟨companyId, employeeId, baseSalary, effectiveDate⟩)
  | .database _ _ _ | .unreachable =>
    bench.onWorld (World.createSalary companyId employeeId baseSalary effectiveDate)

/-- Generates a payslip where the consumer keeps them. -/
def generatePayslip (companyId payrollId : Uuid) (bench : Bench) :
    Except EffectError Unit × Bench :=
  match bench.world.storage with
  | .memory _ => bench.keepLedger (.ok (bench.worker.ledger.generatePayslip payrollId))
  | .database _ _ _ | .unreachable => bench.onWorld (World.generatePayslip companyId payrollId)

/-- The operations behind the handlers. -/
def domain : Domain Bench where
  createSalary companyId employeeId baseSalary effectiveDate :=
    call employeeId (createSalary companyId employeeId baseSalary effectiveDate)
  generatePayslip companyId payrollId := call payrollId (generatePayslip companyId payrollId)
  today bench := bench.world.clock.date
  note := note

/-- Whether the run is over. -/
def isOver (bench : Bench) : Bool := bench.duration ≤ bench.world.elapsed

/-- What a consumer calls, with a handler for its events. -/
def intake {ε : Type} (handle : ε → Bench → Except EffectError Unit × Bench) : Intake Bench ε where
  fetch := fetch
  commit := commit
  rewind := rewind
  handle := handle
  cancelled := isOver
  note := note

/-- What the salary consumer calls. -/
def salaryIntake : Intake Bench EmployeeCreated := intake (handleEmployeeCreated domain)

/-- What the payslip consumer calls. -/
def payslipIntake : Intake Bench PayslipRequested := intake (handlePayslipRequested domain)

/-- Puts back the message that is left to be rewound. -/
def leave (pending : Option Inbound) (bench : Bench) : Bench :=
  { bench with worker := { bench.worker with pending } }

/-- Fetches and processes one message. -/
def processNext (bench : Bench) : Receipt × Bench :=
  let (receipt, pending, bench) := match bench.worker.kind with
    | .salary => Consumer.processNext salaryIntake bench.worker.pending bench
    | .payslip => Consumer.processNext payslipIntake bench.worker.pending bench
  (receipt, bench.leave pending)

/-- Processes a message that was not fetched. -/
def process (message : Inbound) (bench : Bench) : Outcome × Bench :=
  let (outcome, pending, bench) := match bench.worker.kind with
    | .salary => Consumer.process salaryIntake message bench.worker.pending bench
    | .payslip => Consumer.process payslipIntake message bench.worker.pending bench
  (outcome, bench.leave pending)

/-- Processes up to a number of messages, until there is none or a call fails. -/
def processMany : Nat → Bench → List (Except BrokerError Outcome) × Bench
  | 0, bench => ([], bench)
  | times + 1, bench =>
    match bench.processNext with
    | (.done outcome, bench) =>
      let (outcomes, bench) := processMany times bench
      (.ok outcome :: outcomes, bench)
    | (.failed error, bench) => ([.error error], bench)
    | (.nothing, bench) =>
      ([.error (nothingToFetch bench.worker.source.topic)], bench)

/-- Lets time pass and incidents happen. -/
def passTo (elapsed : Nat) (bench : Bench) : Bench :=
  let (timeline, world) := advanceTo bench.start elapsed bench.timeline bench.world
  { bench with timeline, world }

/-- When the next round is due. -/
def nextTime? (bench : Bench) : Pace → Option Nat
  | .again => some bench.world.elapsed
  | .pause => some (bench.world.elapsed + bench.worker.config.retryDelay)
  | .await => bench.timeline.head?.map (·.1)
  | .stop => none

/-- What passes until the next round; nothing if the run is over before. -/
def between (pace : Pace) (bench : Bench) : Option Bench :=
  ((bench.nextTime? pace).filter (· < bench.duration)).map bench.passTo

/-- A bound on the rounds of a run: every round takes a message, meets a fault or an incident, or
passes time. -/
def roundBound (bench : Bench) : Nat :=
  let worker := bench.worker
  bench.world.broker.messages.length + 2 * bench.timeline.length + worker.failures
    + worker.fetchFailures + worker.seekFailures + bench.duration + 2

/-- The consumer at work until its run is over. -/
def work (bench : Bench) : Bench :=
  let rounds := bench.roundBound
  let (pending, bench) := match bench.worker.kind with
    | .salary => Consumer.run salaryIntake between rounds bench.worker.pending bench
    | .payslip => Consumer.run payslipIntake between rounds bench.worker.pending bench
  bench.leave pending

/-- A run of a consumer that is shut down after a number of milliseconds. -/
def run (duration : Nat) (timeline : Timeline) (bench : Bench) : List Call × World :=
  let worker := { bench.worker with calls := [] }
  let bench := { bench with worker, start := bench.world.clock, duration, timeline }
  let bench := (bench.passTo 0).work
  (bench.worker.calls, finishRun bench.start duration bench.timeline bench.world)

end Bench

namespace World

/-- Starts a consumer under a name, at the committed offset of its group. -/
def startConsumer (name : String) (kind : ConsumerKind) (config : ConsumerConfig)
    (failures fetchFailures commitFailures seekFailures : Nat) (world : World) : World :=
  let source := world.broker.subscribe config.group config.topic
  let worker := Worker.new kind config source failures fetchFailures commitFailures seekFailures
  { world with workers := setNamed name worker world.workers }

/-- The consumer with a name, at work. -/
def bench? (name : String) (world : World) : Option Bench :=
  (world.workers.lookup name).map fun worker => ⟨world, worker, world.clock, 0, []⟩

/-- The world after the consumer with a name has worked. -/
def afterWork (name : String) (bench : Bench) : World :=
  { bench.world with workers := setNamed name bench.worker bench.world.workers }

/-- The world without the consumer with a name. -/
def dropConsumer (name : String) (world : World) : World :=
  { world with workers := dropNamed name world.workers }

end World
end HrPipeline.Scenario
