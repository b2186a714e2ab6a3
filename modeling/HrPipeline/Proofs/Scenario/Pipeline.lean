import HrPipeline.Proofs.Api.Emissions
import HrPipeline.Proofs.Publisher.Crew
import HrPipeline.Proofs.Publisher.Forwarding
import HrPipeline.Proofs.Scenario.BenchEffects

/-!
# The whole pipeline

A `Pipeline` is a world with publishers and consumers of both kinds, and for each kind of events a
`Journal` of what was emitted and what the consumers did about it. At each step a request is
answered, a publisher or a consumer makes a call, a consumer subscribes, or something changes that
is neither a table nor a message: the clocks, whether the broker is available, which calls of the
publishers and which calls on the broker are to fail. No effect of a consumer is to fail, though.

Left alone, a publisher gets through a tick and a consumer through `processNext` by their calls, as
`Publisher.exists_iterate_loopTick` and `Consumer.exists_iterate_processNext` say.
-/

namespace HrPipeline

open HrPipeline.Broker HrPipeline.Consumer

namespace Scenario

/-- The events of a kind that were emitted, and what the consumers of the kind did: their calls, and
what came of the messages that they processed. -/
structure Journal (ε : Type) where
  emitted : List ε
  calls : List (Consumer.Call ε)
  outcomes : List (Inbound × Outcome)

namespace Journal

variable {ε : Type}

/-- A journal without entries. -/
def empty : Journal ε := ⟨[], [], []⟩

/-- Adds an event that was emitted, if there is one. -/
def emit (event? : Option ε) (journal : Journal ε) : Journal ε :=
  { journal with emitted := journal.emitted ++ event?.toList }

/-- Adds the calls of a consumer and what came of a message, if something did. -/
def add (calls : List (Consumer.Call ε)) (outcome? : Option (Inbound × Outcome))
    (journal : Journal ε) : Journal ε :=
  { journal with
    calls := journal.calls ++ calls, outcomes := journal.outcomes ++ outcome?.toList }

/-- A call of a consumer; gives the consumer and the world after it. -/
def work [DomainEvent ε] (intake : Intake Bench ε) (member : Member) (world : World)
    (journal : Journal ε) : Member × World × Journal ε :=
  let (stage, pending, recorded) := advance intake.recorded member.stage member.worker.pending
    ⟨member.bench world, []⟩
  (.ofBench stage pending recorded.state, recorded.state.world,
    journal.add recorded.calls stage.outcome?)

end Journal

/-- Whether a call has generated a payslip of a payroll. -/
def generates (payrollId : Uuid) : Consumer.Call PayslipRequested → Bool
  | .handle event (.ok ()) => event.payrollId = payrollId
  | .handle _ (.error _) | .fetch _ | .commit _ _ | .rewind _ _ => false

/-- A world with its publishers, its consumers and the journals of both kinds of events. -/
structure Pipeline where
  world : World
  senders : List Publisher.Sender
  members : List Member
  employees : Journal EmployeeCreated
  payslips : Journal PayslipRequested

namespace Pipeline

/-- How often a payslip of a payroll was generated. -/
def generations (payrollId : Uuid) (pipeline : Pipeline) : Nat :=
  pipeline.payslips.calls.countP (generates payrollId)

/-- Answers a request to the interface. -/
def request (context : Api.Context) (request : Api.Request) (pipeline : Pipeline) : Pipeline :=
  let served := Api.serve context request pipeline.world.storage
  { pipeline with
    world := { pipeline.world with storage := served.storage }.noteAll served.notices
    employees := pipeline.employees.emit (Api.employeeCreated? context request served.response)
    payslips := pipeline.payslips.emit (Api.payslipRequested? context request served.response) }

/-- One publisher makes its next call. -/
def publish (index : Nat) (pipeline : Pipeline) : Pipeline :=
  match pipeline.senders[index]? with
  | none => pipeline
  | some sender =>
    let (stage, world) := Publisher.advance World.outlet sender.maxAttempts sender.batchSize
      sender.stage pipeline.world
    { pipeline with world, senders := pipeline.senders.set index { sender with stage } }

/-- One consumer makes its next call. -/
def consume (index : Nat) (pipeline : Pipeline) : Pipeline :=
  match pipeline.members[index]? with
  | none => pipeline
  | some member =>
    match member.worker.kind with
    | .salary =>
      let (member, world, employees) :=
        pipeline.employees.work Bench.salaryIntake member pipeline.world
      { pipeline with world, members := pipeline.members.set index member, employees }
    | .payslip =>
      let (member, world, payslips) :=
        pipeline.payslips.work Bench.payslipIntake member pipeline.world
      { pipeline with world, members := pipeline.members.set index member, payslips }

/-- What can happen next. -/
inductive Step (pipeline : Pipeline) : Pipeline → Prop where
  /-- A request is answered. -/
  | request (context : Api.Context) (hnow : context.now.Valid) (request : Api.Request) :
      Step pipeline (pipeline.request context request)
  /-- A publisher makes its next call. -/
  | publish (index : Nat) : Step pipeline (pipeline.publish index)
  /-- A consumer makes its next call, while the database can store the day and count the revisions
  of payslips. -/
  | consume (index : Nat) (hd : Database.Storable pipeline.world.clock.date)
      (hg : ∀ payrollId, (pipeline.generations payrollId : Int) < Database.maxInteger) :
      Step pipeline (pipeline.consume index)
  /-- A new consumer subscribes to the topic of its kind. -/
  | subscribe (worker : Worker) (group : String)
      (hs : worker.source = pipeline.world.broker.subscribe group worker.kind.topic)
      (hp : worker.pending = none) (hf : worker.failures = 0) :
      Step pipeline { pipeline with members := pipeline.members ++ [⟨worker, .idle⟩] }
  /-- Other calls of a consumer on the broker are going to fail. -/
  | disturb (index : Nat) (member : Member) (hm : pipeline.members[index]? = some member)
      (fetchFailures commitFailures seekFailures : Nat) :
      Step pipeline { pipeline with
        members := pipeline.members.set index
          ⟨{ member.worker with fetchFailures, commitFailures, seekFailures }, member.stage⟩ }
  /-- Anything but the tables and the messages changes. -/
  | change (world : World) (hs : world.storage = pipeline.world.storage)
      (hm : world.broker.messages = pipeline.world.broker.messages) :
      Step pipeline { pipeline with world }

/-- What a pipeline comes to that starts with empty tables and without messages. -/
inductive Reachable : Pipeline → Prop where
  | start (world : World) (senders : List Publisher.Sender) (mode : ClaimMode)
      (ceiling : Option Int) (hw : world.storage = .database .empty mode ceiling)
      (hb : world.broker.messages = []) (hs : ∀ sender ∈ senders, sender.stage = .idle) :
      Reachable ⟨world, senders, [], .empty, .empty⟩
  | step {pipeline pipeline' : Pipeline} (h : Reachable pipeline) (hs : Step pipeline pipeline') :
      Reachable pipeline'

end Pipeline
end Scenario
end HrPipeline
