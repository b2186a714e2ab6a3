import HrPipeline.CommandLine.Grammar
import HrPipeline.Config
import HrPipeline.Consumer.Kind
import HrPipeline.Database.Outbox

/-!
# The programs

The outbox worker publishes the outbox, and the event consumer applies the effects of events. Both
take their settings from the command line and the environment; what they make of them may still be
refused.
-/

namespace HrPipeline.CommandLine

/-- The flag for the address of the database. -/
def databaseUrl : Flag := ⟨"database-url", "DATABASE_URL", .text, true⟩

/-- The flag for the list of brokers. -/
def kafkaBrokers : Flag := ⟨"kafka-brokers", "KAFKA_BROKERS", .text, true⟩

/-- The flag for the most connections to the database. -/
def poolSize : Flag := ⟨"pool-size", "DATABASE_POOL_SIZE", .unsigned32, false⟩

/-- The most connections to the database where nothing is told. -/
def defaultPoolSize : Nat := 4

/-- The command line of the outbox worker. -/
def workerProgram : Program where
  flags := [
    databaseUrl, kafkaBrokers,
    ⟨"client-id", "KAFKA_CLIENT_ID", .text, false⟩,
    ⟨"publish-interval-ms", "PUBLISH_INTERVAL_MS", .unsigned64, false⟩,
    ⟨"batch-size", "OUTBOX_BATCH_SIZE", .signed64, false⟩,
    ⟨"max-attempts", "OUTBOX_MAX_ATTEMPTS", .signed32, false⟩,
    ⟨"claim-lease-ms", "OUTBOX_CLAIM_LEASE_MS", .unsigned64, false⟩,
    poolSize]
  commands := []

/-- The command line of the event consumer. -/
def consumerProgram : Program where
  flags := [
    databaseUrl, kafkaBrokers,
    ⟨"group-id", "CONSUMER_GROUP_ID", .text, false⟩,
    ⟨"retry-delay-ms", "CONSUMER_RETRY_DELAY_MS", .unsigned64, false⟩,
    poolSize]
  commands := ConsumerKind.all.map ConsumerKind.command

/-- What the outbox worker is told; times are in milliseconds. -/
structure WorkerArgs where
  databaseUrl : String
  kafkaBrokers : String
  clientId : String
  publishInterval : Nat
  batchSize : Int
  maxAttempts : Option Int
  claimLease : Option Nat
  poolSize : Nat
deriving DecidableEq

namespace WorkerArgs

/-- The settings of the worker in what was matched. -/
def ofMatched (matched : Matched) : WorkerArgs where
  databaseUrl := (matched.text? "database-url").getD ""
  kafkaBrokers := (matched.text? "kafka-brokers").getD ""
  clientId := (matched.text? "client-id").getD "go-hris-outbox-worker"
  publishInterval := (matched.natural? "publish-interval-ms").getD PublisherConfig.default.interval
  batchSize := (matched.number? "batch-size").getD PublisherConfig.default.batchSize
  maxAttempts := matched.number? "max-attempts"
  claimLease := matched.natural? "claim-lease-ms"
  poolSize := (matched.natural? "pool-size").getD defaultPoolSize

/-- The settings of a worker with an environment and arguments. -/
def parse (environment : List (String × String)) (arguments : List String) :
    Except UsageError WorkerArgs :=
  (workerProgram.parse environment arguments).map ofMatched

/-- The settings of the publisher, and what making them reports. -/
def publisherConfig (args : WorkerArgs) :
    Except ConfigError PublisherConfig × List Notice :=
  PublisherConfig.default.configure [.interval args.publishInterval, .batchSize args.batchSize]

/-- How the worker claims rows: with a lease exactly if it is told one. -/
def claimMode (args : WorkerArgs) : ClaimMode :=
  match args.claimLease with
  | some lease => .skipLocked (Calendar.nanosPerMilli * lease)
  | none => .shared

/-- The ceiling on failed attempts, which must be positive if there is one. -/
def checkedAttempts (args : WorkerArgs) : Except ConfigError (Option Int) :=
  match args.maxAttempts with
  | none => .ok none
  | some n => (positive "OUTBOX_MAX_ATTEMPTS" n).map some

/-- The settings of the broker client. -/
def brokerConfig (args : WorkerArgs) : Except ConfigError BrokerConfig :=
  BrokerConfig.new args.kafkaBrokers args.clientId

end WorkerArgs

/-- What the event consumer is told; times are in milliseconds. -/
structure ConsumerArgs where
  databaseUrl : String
  kafkaBrokers : String
  group : Option String
  retryDelay : Nat
  poolSize : Nat
  kind : ConsumerKind
deriving DecidableEq

namespace ConsumerArgs

/-- The settings of a consumer in what was matched. -/
def ofMatched (matched : Matched) : ConsumerArgs where
  databaseUrl := (matched.text? "database-url").getD ""
  kafkaBrokers := (matched.text? "kafka-brokers").getD ""
  group := matched.text? "group-id"
  retryDelay := (matched.natural? "retry-delay-ms").getD 1000
  poolSize := (matched.natural? "pool-size").getD defaultPoolSize
  kind := (matched.command?.bind ConsumerKind.ofCommand?).getD .salary

/-- The settings of a consumer with an environment and arguments. -/
def parse (environment : List (String × String)) (arguments : List String) :
    Except UsageError ConsumerArgs :=
  (consumerProgram.parse environment arguments).map ofMatched

/-- The settings of the consumer. -/
def consumerConfig (args : ConsumerArgs) : Except ConfigError ConsumerConfig :=
  (ConsumerConfig.new (args.group.getD args.kind.defaultGroup) args.kind.topic).map
    (·.withRetryDelay args.retryDelay)

/-- The settings of the broker client, which is named after the group. -/
def brokerConfig (args : ConsumerArgs) : Except ConfigError BrokerConfig :=
  BrokerConfig.new args.kafkaBrokers
    (match args.consumerConfig with
    | .ok config => config.group
    | .error _ => "")

end ConsumerArgs
end HrPipeline.CommandLine
