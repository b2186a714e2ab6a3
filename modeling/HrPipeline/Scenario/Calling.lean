import HrPipeline.Api.Service
import HrPipeline.Scenario.World

/-!
# Sources and requests in a scenario

A scenario reads the broker through sources of its own, and it sends requests to the interface.
-/

namespace HrPipeline.Scenario.World

open HrPipeline.Broker HrPipeline.Calendar

/-- Opens a source under a name. -/
def openSource (name group topic : String) (world : World) : World :=
  { world with sources := setNamed name (world.broker.subscribe group topic) world.sources }

/-- Fetches the next message of a source. -/
def fetchFrom (name : String) (source : Source) (world : World) :
    Except BrokerError Inbound × World :=
  match source.fetch? world.broker with
  | some (message, source) =>
    (.ok message, { world with sources := setNamed name source world.sources })
  | none => (.error (nothingToFetch source.topic), world)

/-- Commits a message for the group of a source. -/
def commitFrom (source : Source) (message : Inbound) (world : World) : World :=
  { world with broker := world.broker.commit source.group message }

/-- Rewinds a source to a message. -/
def rewindFrom (name : String) (source : Source) (message : Inbound) (world : World) : World :=
  { world with sources := setNamed name (source.rewind message) world.sources }

/-- Answers a request to the interface. -/
def request (request : Api.Request) (world : World) : Api.Response × World :=
  let (subject, world) := world.issue
  let (event, world) := world.issue
  let context : Api.Context := ⟨world.clock, world.databaseClock, subject, event⟩
  let served := Api.serve context request world.storage
  (served.response, { world with storage := served.storage }.noteAll served.notices)

end HrPipeline.Scenario.World
