import HrPipeline.Broker.Message

/-!
# The broker in memory

The broker in memory of `SPEC_FULL.md` §10.3. Every topic is an append-only log of one partition,
and every group of consumers has its committed offset per topic. While the broker is unavailable, it
refuses to accept messages. A source reads a topic for a group from a position of its own; moving
that position changes nothing in the broker.

Offsets have no bound here, while those of the pipeline are signed numbers of 64 bits. Nothing is
said of the greatest of them, after which there is no next one; a log of messages that were appended
one by one gets there only after 2⁶³ - 1 of them.
-/

namespace HrPipeline.Broker

open HrPipeline.Text

/-- The logs of all topics, the committed offsets and the accepted messages. -/
structure Log where
  /-- All messages of all topics in the order in which they were appended. -/
  messages : List Inbound
  /-- The committed offset of a group on a topic, the latest first. -/
  committed : List ((String × String) × Int)
  /-- The messages accepted from publishers in order. -/
  sent : List Outbound
  available : Bool
deriving DecidableEq

/-- The reading position of a group on a topic. -/
structure Source where
  group : String
  topic : String
  position : Int
deriving DecidableEq

namespace Log

/-- A broker without messages. -/
def empty : Log := ⟨[], [], [], true⟩

/-- The log of a topic. -/
def topic (log : Log) (name : String) : List Inbound :=
  log.messages.filter (·.topic = name)

/-- Appends a message to the log of its topic, at the offset after the last one. -/
def append (log : Log) (topic : String) (key payload : Option Bytes)
    (headers : List (String × Bytes)) : Log :=
  let offset := (log.topic topic).length
  { log with messages := log.messages ++ [⟨topic, 0, offset, key, payload, headers⟩] }

/-- Appends bytes that no publisher sent. -/
def inject (log : Log) (topic : String) (key : Option Bytes) (payload : Bytes) : Log :=
  log.append topic key (some payload) []

/-- Accepts a message, unless the broker is unavailable. `SPEC_FULL.md` §10.3, `BrokerWriter`. -/
def send (log : Log) (message : Outbound) : Except BrokerError Log :=
  if log.available then
    let appended := log.append message.topic (some (utf8 message.key)) (some message.payload)
      (message.headers.map fun header => (header.1, utf8 header.2))
    .ok { appended with sent := log.sent ++ [message] }
  else .error (.publish message.topic "broker transport failure")

/-- The committed offset of a group on a topic. -/
def committed? (log : Log) (group topic : String) : Option Int :=
  log.committed.lookup (group, topic)

/-- How many messages of a topic the group has not committed. -/
def lag (log : Log) (group topic : String) : Int :=
  (log.topic topic).length - (log.committed? group topic).getD 0

/-- A source that starts at the committed offset of its group. -/
def subscribe (log : Log) (group topic : String) : Source :=
  ⟨group, topic, (log.committed? group topic).getD 0⟩

/-- Commits a message for a group; the committed offset never goes back. `SPEC_FULL.md` §10.3,
`MessageSource`. The message must not stand at the greatest offset. -/
def commit (log : Log) (group : String) (message : Inbound) : Log :=
  let before := (log.committed? group message.topic).getD 0
  { log with
    committed := ((group, message.topic), max before (message.offset + 1)) :: log.committed }

/-- The log of a topic after a message was appended. -/
theorem topic_append (log : Log) (name topic : String) (key payload : Option Bytes)
    (headers : List (String × Bytes)) :
    (log.append topic key payload headers).topic name =
      if topic = name then
        log.topic name ++ [⟨topic, 0, (log.topic topic).length, key, payload, headers⟩]
      else log.topic name := by
  by_cases h : topic = name <;> simp [append, Log.topic, h]

/-- Committing moves the offset of that group and topic alone, and never back. -/
theorem committed?_commit (log : Log) (group other : String) (message : Inbound)
    (topic : String) :
    (log.commit group message).committed? other topic =
      if other = group ∧ topic = message.topic then
        some (max ((log.committed? group message.topic).getD 0) (message.offset + 1))
      else log.committed? other topic := by
  by_cases h : other = group ∧ topic = message.topic
  · obtain ⟨rfl, rfl⟩ := h
    simp [commit, committed?]
  · have hb : ((other, topic) == (group, message.topic)) = false := by
      simp only [beq_eq_false_iff_ne, ne_eq, Prod.mk.injEq]
      exact h
    simp [commit, committed?, List.lookup_cons, hb, h]

end Log

namespace Source

/-- The message at the position of a source. -/
def next? (source : Source) (log : Log) : Option Inbound :=
  if 0 ≤ source.position then (log.topic source.topic)[source.position.toNat]? else none

/-- The next message with the source moved past it; nothing while there is none. The message must
not stand at the greatest offset. -/
def fetch? (source : Source) (log : Log) : Option (Inbound × Source) :=
  (source.next? log).map fun message => (message, { source with position := message.offset + 1 })

/-- Moves a source back, so that it delivers a message again. `SPEC_FULL.md` §10.3, `rewind`. -/
def rewind (source : Source) (message : Inbound) : Source :=
  { source with position := message.offset }

end Source
end HrPipeline.Broker
