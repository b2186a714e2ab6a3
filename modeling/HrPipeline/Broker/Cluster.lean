import HrPipeline.Broker.Log
import HrPipeline.Config

/-!
# The broker over the network

A cluster keeps the same logs as the broker in memory. Its clients check more before they talk to
it: their names, the pattern of a subscription, the size of a message, and the place of a commit or
a rewind. Every topic has one partition, which a source is assigned with its first fetch.
-/

namespace HrPipeline.Broker

open HrPipeline.Text

/-- The logs of a cluster and the topics to which it accepts no messages. -/
structure Cluster where
  topics : List String
  log : Log
  refused : List String
deriving DecidableEq

/-- Where a source stands. -/
inductive Assignment where
  /-- The partition is not assigned yet. -/
  | waiting
  | reading (position : Nat)
  /-- The position was lost, and nothing is delivered any more. -/
  | lost
deriving DecidableEq

/-- A source of a topic for a group. -/
structure Subscription where
  group : String
  topic : String
  assignment : Assignment
deriving DecidableEq

/-- Refuses names that no client can have. -/
def checkNames (names : List String) : Except BrokerError Unit :=
  if names.any fun name => name.toList.contains '\x00' then .error (.client "FFI nul error")
  else .ok ()

/-- What is left to be closed in a pattern. -/
inductive PatternState where
  | outside
  /-- Right after a backslash. -/
  | escaped
  /-- Right after an opening bracket, or after the circumflex that follows it. -/
  | opened (negated : Bool)
  | inBrackets
deriving DecidableEq

/-- Whether brackets and parentheses of a pattern are closed; `depth` parentheses are open. -/
def closes : PatternState → Nat → List Char → Bool
  | .outside, depth, [] => depth = 0
  | .escaped, _, [] | .opened _, _, [] | .inBrackets, _, [] => false
  | .outside, depth, c :: cs =>
    if c = '\\' then closes .escaped depth cs
    else if c = '[' then closes (.opened false) depth cs
    else if c = '(' then closes .outside (depth + 1) cs
    else if c = ')' then closes .outside (depth - 1) cs
    else closes .outside depth cs
  | .escaped, depth, _ :: cs => closes .outside depth cs
  | .opened negated, depth, c :: cs =>
    if c = '^' ∧ negated = false then closes (.opened true) depth cs
    else closes .inBrackets depth cs
  | .inBrackets, depth, c :: cs =>
    if c = ']' then closes .outside depth cs else closes .inBrackets depth cs

/-- Whether a source may subscribe to a topic; one that starts with a circumflex is a pattern. -/
def isSubscribable (topic : String) : Bool :=
  match topic.toList with
  | [] => false
  | '^' :: cs => closes .outside 0 cs
  | _ => true

/-- The greatest size of a message with everything around it. -/
def maxMessageSize : Nat := 1000000

/-- The bytes that surround a message. -/
def messageOverhead : Nat := 36

/-- The most bytes that a message takes on its way. -/
def wireSize (message : Outbound) : Nat :=
  let headers := message.headers.map fun header =>
    10 + (utf8 header.1).length + (utf8 header.2).length
  messageOverhead + (utf8 message.key).length + message.payload.length +
    headers.foldr (· + ·) 0

namespace Cluster

/-- A cluster with empty topics. -/
def new (topics : List String) : Cluster := ⟨topics, Log.empty, []⟩

/-- Opens a client that publishes. -/
def openWriter (config : BrokerConfig) : Except BrokerError Unit :=
  checkNames [config.clientId]

/-- Publishes a message. -/
def send (cluster : Cluster) (message : Outbound) : Except BrokerError Cluster :=
  if maxMessageSize < wireSize message then
    .error (.publish message.topic
      "Message production error: MessageSizeTooLarge (Broker: Message size too large)")
  else if message.topic ∈ cluster.refused then
    .error (.publish message.topic
      "Message production error: TopicAuthorizationFailed (Broker: Topic authorization failed)")
  else (cluster.log.send message).map fun log => { cluster with log }

/-- Accepts no more messages to a topic. -/
def refuse (cluster : Cluster) (topic : String) : Cluster :=
  { cluster with refused := topic :: cluster.refused }

/-- Opens a source of a consumer's topic for its group. -/
def subscribe (config : BrokerConfig) (consumer : ConsumerConfig) :
    Except BrokerError Subscription := do
  checkNames [consumer.group, config.clientId]
  if consumer.group.isEmpty then
    .error (.client
      "Client creation error: librdkafka failed to create consumer queue")
  else if isSubscribable consumer.topic then .ok ⟨consumer.group, consumer.topic, .waiting⟩
  else
    .error (.fetch consumer.topic
      "Subscription error: Local: Invalid argument or configuration")

/-- The next message, with the source after it; nothing while there is none. -/
def fetch? (cluster : Cluster) (source : Subscription) : Option (Inbound × Subscription) :=
  let position? := match source.assignment with
    | .waiting => some ((cluster.log.committed? source.group source.topic).getD 0).toNat
    | .reading position => some position
    | .lost => none
  position?.bind fun position =>
    (cluster.log.topic source.topic)[position]?.map fun message =>
      (message, { source with assignment := .reading (position + 1) })

/-- Commits a message for the group of a source. -/
def commit (cluster : Cluster) (source : Subscription) (message : Inbound) :
    Except BrokerError Cluster :=
  if message.topic ∈ cluster.topics ∧ message.partition = 0 then
    let committed :=
      ((source.group, message.topic), message.offset + 1) :: cluster.log.committed
    .ok { cluster with log := { cluster.log with committed } }
  else
    .error (.commit message.topic message.partition message.offset
      "Consumer commit error: UnknownTopicOrPartition (Broker: Unknown topic or partition)")

end Cluster

namespace Subscription

/-- Whether a message is of the partition that a source is assigned. -/
def isAssigned (source : Subscription) (message : Inbound) : Bool :=
  source.assignment ≠ .waiting && message.topic = source.topic && message.partition = 0

/-- Moves a source back to a message. An offset that cannot be is refused, and a source that is
asked for one on its own partition loses its position. -/
def rewind (source : Subscription) (message : Inbound) :
    Except BrokerError Unit × Subscription :=
  let refuse := fun cause =>
    Except.error (.seek message.topic message.partition message.offset ("Seek error: " ++ cause))
  if message.offset < 0 then
    (refuse "Local: Unrepresentable offset",
      if source.isAssigned message then { source with assignment := .lost } else source)
  else if source.isAssigned message then
    (.ok (), { source with assignment := .reading message.offset.toNat })
  else (refuse "Local: Unknown partition", source)

end Subscription
end HrPipeline.Broker
