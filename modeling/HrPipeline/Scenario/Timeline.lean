import HrPipeline.Scenario.World

/-!
# Virtual time

While a publisher or consumer runs, time passes in milliseconds since its start, and working takes
none. A timeline lists what else happens meanwhile; `advanceTo` moves the clock to a time and lets
everything happen that is due by then.
-/

namespace HrPipeline.Scenario

open HrPipeline.Calendar

/-- Something that happens while a program runs. -/
inductive Incident where
  | availability (up : Bool)
  | message (topic : String) (key : Option Bytes) (payload : Bytes)
deriving DecidableEq

/-- Incidents with their times, in the order in which they happen. -/
abbrev Timeline := List (Nat × Incident)

/-- Lets an incident happen. -/
def Incident.happen (incident : Incident) (world : World) : World :=
  match incident with
  | .availability up => { world with broker := { world.broker with available := up } }
  | .message topic key payload => { world with broker := world.broker.inject topic key payload }

/-- Moves the clock of a run that began at an instant. -/
def World.moveTo (start : Instant) (elapsed : Nat) (world : World) : World :=
  { world with clock := start.addMillis elapsed, elapsed }

/-- Lets everything happen that is due at a time, and gives what is left. -/
def advanceTo (start : Instant) (elapsed : Nat) (timeline : Timeline) (world : World) :
    Timeline × World :=
  let due := timeline.takeWhile (·.1 ≤ elapsed)
  let world := due.foldl
    (fun world incident => incident.2.happen (world.moveTo start incident.1)) world
  (timeline.drop due.length, world.moveTo start elapsed)

/-- Lets everything happen that is due before the end of a run, and ends the run. -/
def finishRun (start : Instant) (duration : Nat) (timeline : Timeline) (world : World) : World :=
  let (_, world) := advanceTo start (duration - 1) timeline world
  { world.moveTo start duration with elapsed := 0 }

end HrPipeline.Scenario
