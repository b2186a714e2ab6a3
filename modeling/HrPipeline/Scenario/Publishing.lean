import HrPipeline.Scenario.Storing
import HrPipeline.Scenario.Timeline

/-!
# The publisher in a scenario

The publisher's calls go to the storage and the broker of the world, unless a fault is to happen.
-/

namespace HrPipeline.Scenario

open HrPipeline.Broker HrPipeline.Calendar HrPipeline.Publisher

/-- The error of a storage call that is to fail. -/
def connectionReset : OutboxError := .pool "connection reset"

namespace World

/-- A claim by the publisher. -/
def claim (limit : Int) (world : World) : Except OutboxError (List Outbox.Row) × World :=
  if 0 < world.faults.claim then
    (.error connectionReset,
      { world with faults := { world.faults with claim := world.faults.claim - 1 } })
  else world.claimRows limit

/-- Logs a message that the publisher sent. -/
def logSending (message : Outbound) (accepted : Bool) (world : World) : World :=
  { world with sendings := world.sendings ++ [⟨world.elapsed, message.key, accepted⟩] }

/-- A message sent by the publisher. -/
def send (message : Outbound) (world : World) : Except BrokerError Unit × World :=
  let world := { world with shutdown := world.shutdown.countSend }
  if message.topic ∈ world.faults.rejectedTopics then
    (.error (.publish message.topic "message too large"), world.logSending message false)
  else
    let (result, world) := world.deliver message
    (result, world.logSending message result.isOk)

/-- The publisher's record of an acceptance. -/
def markSent (id : Uuid) (world : World) : Except OutboxError Unit × World :=
  if 0 < world.faults.markSent then
    (.error connectionReset,
      { world with faults := { world.faults with markSent := world.faults.markSent - 1 } })
  else world.recordSent id

/-- The publisher's record of a failure. -/
def markFailed (id : Uuid) (reason : String) (world : World) : Except OutboxError Unit × World :=
  if 0 < world.faults.markFailed then
    (.error connectionReset,
      { world with faults := { world.faults with markFailed := world.faults.markFailed - 1 } })
  else world.recordFailed id reason

/-- What the publisher calls in the world. -/
def outlet : Outlet World where
  claim := claim
  send := send
  markSent := markSent
  markFailed := markFailed
  cancelled world := world.shutdown.requested
  note := note

/-- A single tick, with a shutdown that may be requested before or during it. -/
def tick (config : PublisherConfig) (shutdown : Shutdown) (world : World) :
    Except OutboxError Report × World :=
  let (result, world) :=
    Publisher.tick outlet world.maxAttempts config.batchSize { world with shutdown }
  (result, { world with shutdown := Shutdown.none })

/-- Ticks in a run that began at an instant, at the given times. -/
def tickAt (config : PublisherConfig) (start : Instant) :
    List Nat → Timeline → World → Timeline × World
  | [], timeline, world => (timeline, world)
  | time :: times, timeline, world =>
    let (timeline, world) := advanceTo start time timeline world
    tickAt config start times timeline
      (loopTick outlet world.maxAttempts config.batchSize world)

/-- The times of the ticks of a run: every interval from the start on, before the end. -/
def tickTimes (interval duration : Nat) : List Nat :=
  (List.range ((duration + interval - 1) / interval)).map (· * interval)

/-- A run of the publisher that is shut down after a number of milliseconds; gives what it sent. -/
def runPublisher (config : PublisherConfig) (duration : Nat) (timeline : Timeline)
    (world : World) : List Sending × World :=
  let start := world.clock
  let world := { world with sendings := [], shutdown := Shutdown.none }.note .publisherStarted
  let (timeline, world) := tickAt config start (tickTimes config.interval duration) timeline world
  let world := (finishRun start duration timeline world).note .publisherStopped
  (world.sendings, { world with sendings := [] })

end World
end HrPipeline.Scenario
