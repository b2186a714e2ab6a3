import HrPipeline.Broker.Log
import HrPipeline.Config
import HrPipeline.Consumer.Kind
import HrPipeline.Consumer.Ledger
import HrPipeline.Consumer.Process
import HrPipeline.Publisher.Tick
import HrPipeline.Storage

/-!
# The world of a scenario

A scenario plays the whole pipeline in one place: a clock that moves only when told to, a storage, a
broker, open transactions, sources and consumers under names, and faults that are to happen. Every
part is a value, and each step of a scenario makes a new world of the old one.
-/

namespace HrPipeline.Scenario

open HrPipeline.Calendar HrPipeline.Broker HrPipeline.Consumer

/-- Faults that are to happen. -/
structure Faults where
  /-- Topics whose messages are refused before the broker is asked. -/
  rejectedTopics : List String
  /-- How many of the publisher's next claims fail. -/
  claim : Nat
  /-- How many of the publisher's next records of an acceptance fail. -/
  markSent : Nat
  /-- How many of the publisher's next records of a failure fail. -/
  markFailed : Nat
deriving DecidableEq

/-- No faults. -/
def Faults.none : Faults := ⟨[], 0, 0, 0⟩

/-- A message that a publisher sent, at a time since the start of its run. -/
structure Sending where
  elapsed : Nat
  key : String
  accepted : Bool
deriving DecidableEq

/-- A call of an effect, at a time since the start of the run it belongs to. -/
structure Call where
  elapsed : Nat
  id : Uuid
  result : Except EffectError Unit

/-- A consumer with its source, its effects and the faults that are to happen to it. -/
structure Worker where
  kind : ConsumerKind
  config : ConsumerConfig
  source : Source
  /-- The message that is left to be rewound. -/
  pending : Option Inbound
  /-- How many of the next effects fail. -/
  failures : Nat
  fetchFailures : Nat
  commitFailures : Nat
  seekFailures : Nat
  ledger : Ledger
  calls : List Call

/-- A consumer that has done nothing yet, with the numbers of effects, fetches, commits and rewinds
that are to fail. -/
def Worker.new (kind : ConsumerKind) (config : ConsumerConfig) (source : Source)
    (failures fetchFailures commitFailures seekFailures : Nat) : Worker :=
  ⟨kind, config, source, none, failures, fetchFailures, commitFailures, seekFailures, .empty, []⟩

/-- The error of a fetch that would wait for a message. -/
def nothingToFetch (topic : String) : BrokerError := .fetch topic "no message"

/-- When the publisher is told to shut down. -/
structure Shutdown where
  requested : Bool
  /-- The number of the message during whose sending a shutdown is requested. -/
  during : Option Nat
  /-- The messages sent so far. -/
  sends : Nat
deriving DecidableEq

/-- No shutdown. -/
def Shutdown.none : Shutdown := ⟨false, .none, 0⟩

/-- Counts a message that is sent, and requests the shutdown if it is due. -/
def Shutdown.countSend (shutdown : Shutdown) : Shutdown :=
  let sends := shutdown.sends + 1
  { shutdown with sends, requested := shutdown.requested || shutdown.during = some sends }

/-- All parts of the pipeline. -/
structure World where
  clock : Instant
  /-- What the database's own clock shows. -/
  databaseClock : Instant
  storage : Storage
  broker : Log
  faults : Faults
  maxAttempts : Option Int
  shutdown : Shutdown
  /-- Milliseconds since the start of a run. -/
  elapsed : Nat
  /-- Messages that the publisher sent, in order. -/
  sendings : List Sending
  /-- What was reported, the latest first. -/
  reported : List Notice
  /-- How many identifiers were issued. -/
  issued : Nat
  transactions : List (String × Outbox.Transaction)
  sources : List (String × Source)
  workers : List (String × Worker)

/-- The entries of a list of named values with one of them set. -/
def setNamed {α : Type} (name : String) (value : α) (entries : List (String × α)) :
    List (String × α) :=
  (name, value) :: entries.filter (·.1 ≠ name)

/-- The entries of a list of named values without one of them. -/
def dropNamed {α : Type} (name : String) (entries : List (String × α)) : List (String × α) :=
  entries.filter (·.1 ≠ name)

namespace World

/-- The world in which a scenario begins. -/
def start (clock databaseClock : Instant) (storage : Storage) (maxAttempts : Option Int) :
    World where
  clock := clock
  databaseClock := databaseClock
  storage := storage
  broker := Log.empty
  faults := Faults.none
  maxAttempts := maxAttempts
  shutdown := Shutdown.none
  elapsed := 0
  sendings := []
  reported := []
  issued := 0
  transactions := []
  sources := []
  workers := []

/-- Reports a notice. -/
def note (notice : Notice) (world : World) : World :=
  { world with reported := notice :: world.reported }

/-- Reports notices in order. -/
def noteAll (notices : List Notice) (world : World) : World :=
  notices.foldl (fun world notice => world.note notice) world

/-- What was reported, in order. -/
def notices (world : World) : List Notice := world.reported.reverse

/-- An identifier that was not issued before. -/
def issue (world : World) : Uuid × World :=
  (Uuid.reserved world.issued, { world with issued := world.issued + 1 })

end World
end HrPipeline.Scenario
