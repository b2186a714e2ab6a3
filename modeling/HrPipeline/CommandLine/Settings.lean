import HrPipeline.CommandLine.Programs

/-!
# Settings of a program

Everything that a program starts with. It starts only if every part of its settings is accepted;
of two parts that are refused, the one that is needed first is told. Each setting is shown on a
line of its own.
-/

namespace HrPipeline.CommandLine

/-- A setting on a line: its name and its value. -/
def settingLine (name value : String) : String := name ++ ": " ++ value

/-- The lines of the settings of a broker client. -/
def brokerLines (config : BrokerConfig) : List String :=
  [settingLine "brokers" config.brokers, settingLine "client" config.clientId]

/-- What the outbox worker starts with. -/
structure WorkerSettings where
  broker : BrokerConfig
  publisher : PublisherConfig
  attempts : Option Int
  claim : ClaimMode
deriving DecidableEq

/-- The settings of the worker, if all of them are accepted. -/
def WorkerArgs.settings (args : WorkerArgs) : Except ConfigError WorkerSettings := do
  let broker ← args.brokerConfig
  let publisher ← args.publisherConfig.1
  let attempts ← args.checkedAttempts
  .ok ⟨broker, publisher, attempts, args.claimMode⟩

/-- The lines of the settings of the worker. -/
def WorkerSettings.lines (settings : WorkerSettings) : List String :=
  brokerLines settings.broker ++
    [settingLine "interval" (toString settings.publisher.interval ++ " ms"),
      settingLine "batch" (toString settings.publisher.batchSize),
      settingLine "attempts" ((settings.attempts.map toString).getD "unlimited"),
      settingLine "claim" (match settings.claim with
        | .shared => "shared"
        | .skipLocked lease => "leased for " ++ toString (lease / Calendar.nanosPerMilli) ++ " ms")]

/-- What the event consumer starts with. -/
structure ConsumerSettings where
  consumer : ConsumerConfig
  broker : BrokerConfig
deriving DecidableEq

/-- The settings of the consumer, if all of them are accepted. -/
def ConsumerArgs.settings (args : ConsumerArgs) : Except ConfigError ConsumerSettings := do
  let consumer ← args.consumerConfig
  let broker ← args.brokerConfig
  .ok ⟨consumer, broker⟩

/-- The lines of the settings of the consumer. -/
def ConsumerSettings.lines (settings : ConsumerSettings) : List String :=
  brokerLines settings.broker ++
    [settingLine "group" settings.consumer.group,
      settingLine "topic" settings.consumer.topic,
      settingLine "delay" (toString settings.consumer.retryDelay ++ " ms")]

/-- How a command line is answered: by the settings it makes, or by a refusal. -/
inductive Reply where
  | accepted (lines : List String)
  | usage (error : UsageError)
  | refused (error : ConfigError)
deriving DecidableEq

/-- The reply to what was read and made of a command line. -/
def Reply.of {α β : Type} (parsed : Except UsageError α) (make : α → Except ConfigError β)
    (lines : β → List String) : Reply :=
  match parsed with
  | .error error => .usage error
  | .ok args =>
    match make args with
    | .error error => .refused error
    | .ok settings => .accepted (lines settings)

/-- The reply of the outbox worker. -/
def workerReply (environment : List (String × String)) (arguments : List String) : Reply :=
  .of (WorkerArgs.parse environment arguments) WorkerArgs.settings WorkerSettings.lines

/-- The reply of the event consumer. -/
def consumerReply (environment : List (String × String)) (arguments : List String) : Reply :=
  .of (ConsumerArgs.parse environment arguments) ConsumerArgs.settings ConsumerSettings.lines

end HrPipeline.CommandLine
