import HrPipeline.Notice
import HrPipeline.Text.Blank

/-!
# Settings

Settings of the broker clients, the publisher and the consumers. Each constructor refuses what a
process cannot start without; an interval that is too short is raised instead.
-/

namespace HrPipeline

open HrPipeline.Text

/-- Why settings are refused. -/
inductive ConfigError where
  | missing (what : String)
  | invalid (variableName reason : String)
deriving DecidableEq

/-- The wording of a refused setting. -/
def ConfigError.message : ConfigError → String
  | .missing what => "configuration missing: " ++ what
  | .invalid variableName reason =>
    "configuration invalid for " ++ variableName ++ ": " ++ reason

/-- The name of the kind of a refusal. -/
def ConfigError.kind : ConfigError → String
  | .missing _ => "Missing"
  | .invalid _ _ => "Invalid"

/-- Refuses a number that is not positive. -/
def positive (variableName : String) (n : Int) : Except ConfigError Int :=
  if 0 < n then .ok n
  else .error (.invalid variableName ("must be positive, got " ++ toString n))

/-- Settings of a broker client; the times are in milliseconds. -/
structure BrokerConfig where
  /-- A list of brokers with commas between them. -/
  brokers : String
  clientId : String
  messageTimeout : Nat
  sessionTimeout : Nat
deriving DecidableEq

/-- Settings for a list of brokers that names at least one. -/
def BrokerConfig.new (brokers clientId : String) : Except ConfigError BrokerConfig :=
  if (brokers.toList.splitOn ',').all (·.all isBlank) then .error (.missing "KAFKA_BROKERS")
  else .ok ⟨brokers, clientId, 5000, 6000⟩

/-- Settings of the publisher; the interval is in milliseconds. -/
structure PublisherConfig where
  interval : Nat
  batchSize : Int
deriving DecidableEq

/-- The shortest interval between two ticks in milliseconds. -/
def minInterval : Nat := 1000

namespace PublisherConfig

/-- The settings of a publisher that was told nothing. -/
def default : PublisherConfig := ⟨3000, 50⟩

/-- Sets the interval, raising it to the shortest one. -/
def withInterval (config : PublisherConfig) (interval : Nat) : PublisherConfig :=
  { config with interval := max interval minInterval }

/-- Sets the batch size, which must be positive. -/
def withBatchSize (config : PublisherConfig) (batchSize : Int) :
    Except ConfigError PublisherConfig := do
  let size ← positive "OUTBOX_BATCH_SIZE" batchSize
  .ok { config with batchSize := size }

/-- A setting of the publisher. -/
inductive Setting where
  | interval (millis : Nat)
  | batchSize (size : Int)
deriving DecidableEq

/-- What a setting reports: an interval that is too short and is raised. -/
def Setting.notices : Setting → List Notice
  | .interval millis => if millis < minInterval then [.intervalRaised] else []
  | .batchSize _ => []

/-- Applies settings in order until one is refused; gives also what they report. -/
def configure (config : PublisherConfig) :
    List Setting → Except ConfigError PublisherConfig × List Notice
  | [] => (.ok config, [])
  | .interval millis :: settings =>
    let (result, notices) := configure (config.withInterval millis) settings
    (result, (Setting.interval millis).notices ++ notices)
  | .batchSize size :: settings =>
    match config.withBatchSize size with
    | .error error => (.error error, [])
    | .ok config => configure config settings

end PublisherConfig

/-- Settings of a consumer; the delay is in milliseconds. -/
structure ConsumerConfig where
  group : String
  topic : String
  /-- The pause before a message whose effect failed is fetched again. -/
  retryDelay : Nat
deriving DecidableEq

namespace ConsumerConfig

/-- Settings for a group and a topic, neither of them blank. -/
def new (group topic : String) : Except ConfigError ConsumerConfig :=
  if isBlankText group then .error (.missing "consumer group")
  else if isBlankText topic then .error (.missing "consumer topic")
  else .ok ⟨group, topic, 1000⟩

/-- Sets the pause before a retry. -/
def withRetryDelay (config : ConsumerConfig) (delay : Nat) : ConsumerConfig :=
  { config with retryDelay := delay }

end ConsumerConfig
end HrPipeline
