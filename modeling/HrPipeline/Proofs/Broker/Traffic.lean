import HrPipeline.Broker.Log

/-!
# Calls of a broker

Publishers send messages to a broker while consumers open sources, fetch from them and commit or
rewind them, in any order. `Traffic.perform` answers one call, and a history is calls with their
replies. A fetch that finds nothing to deliver waits: it is tried again by another call.

`Arrival` is what a history tells of the logs: messages that were accepted, and bytes that no
publisher sent. One call appends at most one message, to one log, under the number that is next.
-/

namespace HrPipeline.Broker

open HrPipeline.Text

/-- A broker with the sources that were opened, in order. -/
structure Traffic where
  log : Log
  sources : List Source
deriving DecidableEq

namespace Traffic

/-- A call of a broker, or of one of the sources that were opened. -/
inductive Call where
  | send (message : Outbound)
  | inject (topic : String) (key : Option Bytes) (payload : Bytes)
  | setAvailable (available : Bool)
  | subscribe (group topic : String)
  | fetch (source : Nat)
  | commit (source : Nat) (message : Inbound)
  | rewind (source : Nat) (message : Inbound)
deriving DecidableEq

/-- What a call is answered. -/
inductive Reply where
  | done
  | refused (error : BrokerError)
  | delivered (message : Inbound)
  /-- There is nothing to deliver yet. -/
  | waiting
  /-- No such source was opened. -/
  | unknown
deriving DecidableEq

/-- A call with its reply. -/
structure Exchange where
  call : Call
  reply : Reply
deriving DecidableEq

/-- A message as it arrives for a topic. -/
inductive Arrival where
  | sent (message : Outbound)
  | injected (topic : String) (key : Option Bytes) (payload : Bytes)
deriving DecidableEq

namespace Arrival

/-- The topic that a message arrives for. -/
def topic : Arrival → String
  | sent message => message.topic
  | injected topic _ _ => topic

/-- A message as it stands in the log, under a number. -/
def written (number : Nat) : Arrival → Inbound
  | sent message =>
    ⟨message.topic, 0, number, some (utf8 message.key), some message.payload,
      message.headers.map fun header => (header.1, utf8 header.2)⟩
  | injected topic key payload => ⟨topic, 0, number, key, some payload, []⟩

/-- The message of a publisher. -/
def message? : Arrival → Option Outbound
  | sent message => some message
  | injected _ _ _ => none

@[simp] theorem topic_sent (message : Outbound) : (sent message).topic = message.topic := rfl

@[simp] theorem topic_injected (topic : String) (key : Option Bytes) (payload : Bytes) :
    (injected topic key payload).topic = topic := rfl

@[simp] theorem message?_sent (message : Outbound) : (sent message).message? = some message := rfl

@[simp] theorem message?_injected (topic : String) (key : Option Bytes) (payload : Bytes) :
    (injected topic key payload).message? = none := rfl

@[simp] theorem topic_written (number : Nat) (arrival : Arrival) :
    (arrival.written number).topic = arrival.topic := by
  cases arrival <;> rfl

end Arrival

/-- Whether the broker is to be available, if a call is about that. -/
def Call.availability? : Call → Option Bool
  | setAvailable available => some available
  | send _ | inject _ _ _ | subscribe _ _ | fetch _ | commit _ _ | rewind _ _ => none

/-- The source that a call may move. -/
def Call.moves? : Call → Option Nat
  | fetch source | rewind source _ => some source
  | send _ | inject _ _ _ | setAvailable _ | subscribe _ _ | commit _ _ => none

/-- A call moves a source by fetching from it or by rewinding it. -/
theorem Call.moves?_eq_some {call : Call} {source : Nat} (h : call.moves? = some source) :
    call = .fetch source ∨ ∃ message, call = .rewind source message := by
  cases call with
  | fetch other => exact .inl (congrArg fetch (Option.some.inj h))
  | rewind other message => exact .inr ⟨message, congrArg (rewind · message) (Option.some.inj h)⟩
  | send _ => cases h
  | inject _ _ _ => cases h
  | setAvailable _ => cases h
  | subscribe _ _ => cases h
  | commit _ _ => cases h

namespace Exchange

/-- What arrives with a call. -/
def arrival? (exchange : Exchange) : Option Arrival :=
  match exchange.call, exchange.reply with
  | .send message, .done => some (.sent message)
  | .inject topic key payload, .done => some (.injected topic key payload)
  | _, _ => none

/-- The message that a source delivers. -/
def delivery? (source : Nat) (exchange : Exchange) : Option Inbound :=
  match exchange.call, exchange.reply with
  | .fetch other, .delivered message => if other = source then some message else none
  | _, _ => none

/-- Only a fetch from the source delivers a message of it. -/
theorem delivery?_of_ne {call : Call} {source : Nat} (h : call ≠ .fetch source) (reply : Reply) :
    delivery? source ⟨call, reply⟩ = none := by
  unfold delivery?
  split
  · next other message hc _ =>
    refine if_neg fun he => h ?_
    rw [← he]
    exact hc
  · rfl

end Exchange

/-- What arrived for a topic. -/
def arrivals (topic : String) (history : List Exchange) : List Arrival :=
  (history.filterMap Exchange.arrival?).filter (·.topic = topic)

/-- What a source delivered. -/
def deliveries (source : Nat) (history : List Exchange) : List Inbound :=
  history.filterMap (Exchange.delivery? source)

theorem arrivals_append (topic : String) (before later : List Exchange) :
    arrivals topic (before ++ later) = arrivals topic before ++ arrivals topic later := by
  simp [arrivals]

theorem deliveries_append (source : Nat) (before later : List Exchange) :
    deliveries source (before ++ later) = deliveries source before ++ deliveries source later := by
  simp [deliveries]

/-- A broker without messages, of which no source was opened. -/
def empty : Traffic := ⟨.empty, []⟩

/-- Answers a call of a source. -/
def ask (index : Nat) (answer : Source → Reply × Traffic) (traffic : Traffic) : Reply × Traffic :=
  match traffic.sources[index]? with
  | none => (.unknown, traffic)
  | some source => answer source

/-- The traffic with another source at a place. -/
def withSource (index : Nat) (source : Source) (traffic : Traffic) : Traffic :=
  { traffic with sources := traffic.sources.set index source }

/-- Answers a call; gives the traffic after it. -/
def perform (call : Call) (traffic : Traffic) : Reply × Traffic :=
  match call with
  | .send message =>
    match traffic.log.send message with
    | .ok log => (.done, { traffic with log })
    | .error error => (.refused error, traffic)
  | .inject topic key payload =>
    (.done, { traffic with log := traffic.log.inject topic key payload })
  | .setAvailable available => (.done, { traffic with log := { traffic.log with available } })
  | .subscribe group topic =>
    (.done, { traffic with sources := traffic.sources ++ [traffic.log.subscribe group topic] })
  | .fetch index =>
    traffic.ask index fun source =>
      match source.fetch? traffic.log with
      | some (message, source) => (.delivered message, traffic.withSource index source)
      | none => (.waiting, traffic)
  | .commit index message =>
    traffic.ask index fun source =>
      (.done, { traffic with log := traffic.log.commit source.group message })
  | .rewind index message =>
    traffic.ask index fun source => (.done, traffic.withSource index (source.rewind message))

/-- A call with its reply. -/
def exchange (call : Call) (traffic : Traffic) : Exchange := ⟨call, (traffic.perform call).1⟩

/-- The traffic after some calls. -/
def after (traffic : Traffic) : List Call → Traffic
  | [] => traffic
  | call :: calls => (traffic.perform call).2.after calls

/-- Some calls with their replies. -/
def history (traffic : Traffic) : List Call → List Exchange
  | [] => []
  | call :: calls => traffic.exchange call :: (traffic.perform call).2.history calls

/-- The group that a call belongs to, if any. -/
def group? (traffic : Traffic) (call : Call) : Option String :=
  match call with
  | .subscribe group _ => some group
  | .fetch source | .commit source _ | .rewind source _ => (traffic.sources[source]?).map (·.group)
  | .send _ | .inject _ _ _ | .setAvailable _ => none

variable {traffic : Traffic} {call : Call}

theorem after_append (calls later : List Call) :
    traffic.after (calls ++ later) = (traffic.after calls).after later := by
  induction calls generalizing traffic with
  | nil => rfl
  | cons call calls ih => exact ih

theorem after_concat (calls : List Call) (call : Call) :
    traffic.after (calls ++ [call]) = ((traffic.after calls).perform call).2 :=
  after_append calls [call]

theorem history_append (calls later : List Call) :
    traffic.history (calls ++ later) =
      traffic.history calls ++ (traffic.after calls).history later := by
  induction calls generalizing traffic with
  | nil => rfl
  | cons call calls ih =>
    rw [List.cons_append, history, history, List.cons_append, after, ih]

theorem history_concat (calls : List Call) (call : Call) :
    traffic.history (calls ++ [call]) =
      traffic.history calls ++ [(traffic.after calls).exchange call] :=
  history_append calls [call]

end Traffic

open Traffic

/-- What a call does to the logs: at most one message arrives, and gets the next number. -/
structure Log.Takes (log : Log) (exchange : Exchange) (log' : Log) : Prop where
  messages : log'.messages = log.messages ++
    (exchange.arrival?.map fun arrival =>
      arrival.written (log.topic arrival.topic).length).toList
  /-- The messages of publishers are remembered. -/
  sent : log'.sent = log.sent ++ (exchange.arrival?.bind Arrival.message?).toList
  available : log'.available = exchange.call.availability?.getD log.available

/-- A call with which nothing arrives may commit, or switch whether the broker is available. -/
theorem Log.takes_quiet {log : Log} {exchange : Exchange} (harrival : exchange.arrival? = none)
    (committed : List ((String × String) × Int)) :
    log.Takes exchange { log with
      committed, available := exchange.call.availability?.getD log.available } where
  messages := by simp [harrival]
  sent := by simp [harrival]
  available := rfl

/-- What arrives is appended. -/
theorem Log.takes_append {log log' : Log} {exchange : Exchange} {arrival : Arrival}
    (harrival : exchange.arrival? = some arrival)
    (hmessages : log'.messages =
      log.messages ++ [arrival.written (log.topic arrival.topic).length])
    (hsent : log'.sent = log.sent ++ arrival.message?.toList)
    (havailable : log'.available = exchange.call.availability?.getD log.available) :
    log.Takes exchange log' where
  messages := by rw [harrival, hmessages, Option.map_some, Option.toList_some]
  sent := by rw [harrival, hsent, Option.bind_some]
  available := havailable

/-- The log of a topic after a call: what arrived for it has the next number. -/
theorem Log.Takes.topic {log log' : Log} {exchange : Exchange} (h : log.Takes exchange log')
    (topic : String) :
    log'.topic topic = log.topic topic ++
      (arrivals topic [exchange]).mapIdx fun place arrival =>
        arrival.written ((log.topic topic).length + place) := by
  rw [Log.topic, h.messages, List.filter_append, ← Log.topic]
  unfold arrivals
  cases ha : exchange.arrival? with
  | none => simp [ha]
  | some arrival =>
    by_cases ht : arrival.topic = topic
    · subst ht
      simp [ha]
    · simp [ha, ht]

namespace Traffic

variable {traffic : Traffic} {call : Call}

/-- A message is accepted exactly if the broker is available. -/
theorem perform_send (message : Outbound) :
    traffic.perform (.send message) =
      if traffic.log.available then
        (.done, { traffic with
          log := { traffic.log with
            messages := traffic.log.messages ++
              [(Arrival.sent message).written (traffic.log.topic message.topic).length]
            sent := traffic.log.sent ++ [message] } })
      else (.refused (.publish message.topic "broker transport failure"), traffic) := by
  show (match traffic.log.send message with | .ok log => _ | .error error => _) = _
  unfold Log.send
  by_cases ha : traffic.log.available = true
  · rw [if_pos ha, if_pos ha]
    rfl
  · rw [if_neg ha, if_neg ha]

/-- A call of a source keeps what the traffic has before and after the source answers. -/
theorem ask_induction {index : Nat} {answer : Source → Reply × Traffic}
    {motive : Reply × Traffic → Prop} (unknown : motive (.unknown, traffic))
    (asked : ∀ source, traffic.sources[index]? = some source → motive (answer source)) :
    motive (traffic.ask index answer) := by
  unfold ask
  split
  · exact unknown
  · next source hs => exact asked source hs

/-- What each call does to the logs. -/
theorem takes_perform (traffic : Traffic) (call : Call) :
    traffic.log.Takes (traffic.exchange call) (traffic.perform call).2.log := by
  cases call with
  | send message =>
    rw [exchange, perform_send]
    split
    · exact Log.takes_append rfl rfl rfl rfl
    · exact Log.takes_quiet rfl traffic.log.committed
  | inject topic key payload => exact Log.takes_append rfl rfl (List.append_nil _).symm rfl
  | setAvailable available => exact Log.takes_quiet rfl traffic.log.committed
  | subscribe group topic => exact Log.takes_quiet rfl traffic.log.committed
  | fetch index =>
    refine ask_induction (motive := fun result => traffic.log.Takes _ result.2.log) ?_ ?_
    · exact Log.takes_quiet rfl traffic.log.committed
    · intro source _
      split
      · exact Log.takes_quiet rfl traffic.log.committed
      · exact Log.takes_quiet rfl traffic.log.committed
  | commit index message =>
    refine ask_induction (motive := fun result => traffic.log.Takes _ result.2.log) ?_ ?_
    · exact Log.takes_quiet rfl traffic.log.committed
    · exact fun source _ => Log.takes_quiet rfl _
  | rewind index message =>
    refine ask_induction (motive := fun result => traffic.log.Takes _ result.2.log) ?_ ?_
    · exact Log.takes_quiet rfl traffic.log.committed
    · exact fun source _ => Log.takes_quiet rfl traffic.log.committed

section Sources

variable {index : Nat} {source : Source}

/-- A call of a source that was opened is answered by the source. -/
theorem ask_of_some {answer : Source → Reply × Traffic} (h : traffic.sources[index]? = some source) :
    traffic.ask index answer = answer source := by
  unfold ask
  rw [h]

/-- A call that does not move a source leaves it where it is. -/
theorem source_perform (h : traffic.sources[index]? = some source)
    (hc : call.moves? ≠ some index) : (traffic.perform call).2.sources[index]? = some source := by
  have hset {other : Nat} (ho : other ≠ index) (moved : Source) :
      (traffic.withSource other moved).sources[index]? = some source := by
    rw [withSource, List.getElem?_set_ne ho, h]
  cases call with
  | send message =>
    rw [perform_send]
    split <;> exact h
  | inject topic key payload => exact h
  | setAvailable available => exact h
  | subscribe group topic =>
    obtain ⟨hlt, -⟩ := List.getElem?_eq_some_iff.mp h
    exact (List.getElem?_append_left hlt).trans h
  | fetch other =>
    have ho : other ≠ index := fun he => hc (congrArg some he)
    refine ask_induction (motive := fun result => result.2.sources[index]? = some source) h ?_
    intro asked _
    split
    · exact hset ho _
    · exact h
  | commit other message =>
    exact ask_induction (motive := fun result => result.2.sources[index]? = some source) h
      fun _ _ => h
  | rewind other message =>
    have ho : other ≠ index := fun he => hc (congrArg some he)
    exact ask_induction (motive := fun result => result.2.sources[index]? = some source) h
      fun asked _ => hset ho _

/-- Only a commit changes committed offsets: that of the group of its source on the topic of the
message, and never back. -/
theorem committed?_perform (traffic : Traffic) (call : Call) (group topic : String) :
    (traffic.perform call).2.log.committed? group topic = traffic.log.committed? group topic ∨
      traffic.group? call = some group ∧ ∃ message : Inbound,
        (traffic.perform call).2.log.committed? group topic =
          some (max ((traffic.log.committed? group topic).getD 0) (message.offset + 1)) := by
  cases call with
  | send message =>
    rw [perform_send]
    left
    split <;> rfl
  | inject key payload => exact .inl rfl
  | setAvailable available => exact .inl rfl
  | subscribe group topic => exact .inl rfl
  | fetch index =>
    refine .inl (ask_induction (motive := fun result =>
      result.2.log.committed? group topic = traffic.log.committed? group topic) rfl ?_)
    intro source _
    split <;> rfl
  | commit index message =>
    cases hs : traffic.sources[index]? with
    | none => exact .inl (by simp only [perform, ask, hs])
    | some source =>
      have hp : traffic.perform (.commit index message) =
          (.done, { traffic with log := traffic.log.commit source.group message }) :=
        ask_of_some hs
      rw [hp, Log.committed?_commit]
      split
      · next h =>
        obtain ⟨rfl, rfl⟩ := h
        exact .inr ⟨by rw [group?, hs, Option.map_some], message, rfl⟩
      · exact .inl rfl
  | rewind index message =>
    exact .inl (ask_induction (motive := fun result =>
      result.2.log.committed? group topic = traffic.log.committed? group topic) rfl
        fun _ _ => rfl)

end Sources
end Traffic
end HrPipeline.Broker
