import HrPipeline.Proofs.Broker.Numbered
import HrPipeline.Proofs.Broker.Traffic
import Mathlib.Data.List.Induction

/-!
# Append-only logs

However the calls of publishers and consumers interleave, the log of a topic is what arrived for the
topic, one after the other under the numbers from zero on. So a log only ever grows, and a source
that is never rewound delivers it without gaps. `Orderly` says what holds after any calls of a broker
that was empty, `Reads` where a source stands that was opened meanwhile.
-/

namespace HrPipeline.Broker

open HrPipeline.Text

/-- An entry of a log carries a message of a publisher. -/
structure Outbound.CarriedBy (message : Outbound) (entry : Inbound) : Prop where
  topic : entry.topic = message.topic
  key : entry.key = some (utf8 message.key)
  payload : entry.payload = some message.payload
  headers : entry.headers = message.headers.map fun header => (header.1, utf8 header.2)

namespace Traffic

/-- Whether the broker is available after some calls: it is unless it was switched off last. -/
def isAvailable (calls : List Call) : Bool :=
  (calls.filterMap Call.availability?).getLast?.getD true

/-- The entries of the log of a topic that arrived from publishers. -/
def sentEntries (topic : String) (calls : List Call) : List Inbound :=
  ((arrivals topic (empty.history calls)).zip ((empty.after calls).log.topic topic)).filterMap
    fun entry => if entry.1.message?.isSome then some entry.2 else none

/-- The traffic after some calls and the opening of one more source. -/
def opened (group topic : String) (calls : List Call) : Traffic :=
  empty.after (calls ++ [.subscribe group topic])

/-- A source reads a topic from a number on: it has delivered the messages from there to where it
stands. -/
structure Reads (index : Nat) (group topic : String) (start : Nat) (delivered : List Inbound)
    (traffic : Traffic) : Prop where
  source : traffic.sources[index]? =
    some ⟨group, topic, ((start + delivered.length : Nat) : Int)⟩
  delivered : delivered = ((traffic.log.topic topic).drop start).take delivered.length

/-- The log of a topic is what arrived for the topic, under the numbers from zero on. -/
theorem topic_after (topic : String) (calls : List Call) :
    (empty.after calls).log.topic topic =
      (arrivals topic (empty.history calls)).mapIdx fun number arrival =>
        arrival.written number := by
  induction calls using List.reverseRecOn with
  | nil => rfl
  | append_singleton calls call ih =>
    have htopic := (takes_perform (empty.after calls) call).topic topic
    rw [after_concat, history_concat, arrivals_append, List.mapIdx_append, htopic, ih,
      List.length_mapIdx]
    simp only [Nat.add_comm]

/-- Every message of a log names its topic, and its number is its place. -/
theorem placed_after {topic : String} {calls : List Call} {number : Nat} {message : Inbound}
    (h : ((empty.after calls).log.topic topic)[number]? = some message) :
    message.topic = topic ∧ message.partition = 0 ∧ message.offset = number := by
  have htopic := Log.topic_of_mem (List.mem_of_getElem? h)
  rw [topic_after, List.getElem?_mapIdx] at h
  obtain ⟨arrival, -, rfl⟩ := Option.map_eq_some_iff.mp h
  refine ⟨htopic, ?_⟩
  cases arrival <;> exact ⟨rfl, rfl⟩

/-- More calls only append to a log. -/
theorem isPrefix_topic_after (traffic : Traffic) (topic : String) (calls : List Call) :
    List.IsPrefix (traffic.log.topic topic) ((traffic.after calls).log.topic topic) := by
  induction calls generalizing traffic with
  | nil => exact List.prefix_rfl
  | cons call calls ih =>
    have hstep := (takes_perform traffic call).topic topic
    exact (List.prefix_append _ _).trans (hstep ▸ ih (traffic.perform call).2)

/-- The accepted messages are those that arrived from publishers. -/
theorem sent_after (calls : List Call) :
    (empty.after calls).log.sent =
      ((empty.history calls).filterMap Exchange.arrival?).filterMap Arrival.message? := by
  induction calls using List.reverseRecOn with
  | nil => rfl
  | append_singleton calls call ih =>
    rw [after_concat, history_concat, (takes_perform _ call).sent, ih, List.filterMap_append,
      List.filterMap_append]
    cases ha : ((empty.after calls).exchange call).arrival? with
    | none => simp [ha]
    | some arrival => cases hm : arrival.message? <;> simp [ha, hm]

theorem available_after (calls : List Call) :
    (empty.after calls).log.available = isAvailable calls := by
  induction calls using List.reverseRecOn with
  | nil => rfl
  | append_singleton calls call ih =>
    rw [after_concat, (takes_perform _ call).available, ih]
    unfold isAvailable exchange
    rw [List.filterMap_append]
    cases h : call.availability? <;> simp [h]

/-- The accepted messages of a topic are those of its arrivals. -/
theorem filter_sent_after (topic : String) (calls : List Call) :
    (empty.after calls).log.sent.filter (·.topic = topic) =
      (arrivals topic (empty.history calls)).filterMap Arrival.message? := by
  rw [sent_after, arrivals]
  induction (empty.history calls).filterMap Exchange.arrival? with
  | nil => rfl
  | cons arrival arrivals ih =>
    cases arrival with
    | sent message => by_cases ht : message.topic = topic <;> simp [ht, ih]
    | injected other key payload =>
      have hnone (rest : List Arrival) : (Arrival.injected other key payload :: rest).filterMap
          Arrival.message? = rest.filterMap Arrival.message? := List.filterMap_cons_none rfl
      rw [hnone, ih, List.filter_cons]
      split
      · rw [hnone]
      · rfl

/-- Arrivals from publishers are carried by their entries, whatever the numbers begin with. -/
theorem forall₂_carriedBy (arrivals : List Arrival) (start : Nat) :
    List.Forall₂ Outbound.CarriedBy (arrivals.filterMap Arrival.message?)
      ((arrivals.zip (arrivals.mapIdx fun number arrival => arrival.written (number + start))
        ).filterMap fun entry => if entry.1.message?.isSome then some entry.2 else none) := by
  induction arrivals generalizing start with
  | nil => exact .nil
  | cons arrival arrivals ih =>
    have hrest := ih (start + 1)
    simp only [List.mapIdx_cons, List.zip_cons_cons, Nat.add_right_comm _ 1 start]
    simp only [← Nat.add_assoc] at hrest
    cases arrival with
    | sent message => exact .cons ⟨rfl, rfl, rfl, rfl⟩ hrest
    | injected other key payload => exact hrest

/-- The messages of a topic that were accepted are carried by the entries of its log that arrived
from publishers, in order. -/
theorem carriedBy_sentEntries (topic : String) (calls : List Call) :
    List.Forall₂ Outbound.CarriedBy ((empty.after calls).log.sent.filter (·.topic = topic))
      (sentEntries topic calls) := by
  rw [filter_sent_after, sentEntries, topic_after]
  exact forall₂_carriedBy _ 0

/-- Committed offsets are never negative. -/
theorem committed_nonneg_after (group topic : String) (calls : List Call) :
    0 ≤ ((empty.after calls).log.committed? group topic).getD 0 := by
  induction calls using List.reverseRecOn with
  | nil => exact Int.le_refl 0
  | append_singleton calls call ih =>
    rw [after_concat]
    rcases committed?_perform (empty.after calls) call group topic with h | ⟨-, message, h⟩
    · rwa [h]
    · rw [h, Option.getD_some]
      exact Int.le_trans ih (Int.le_max_left _ _)

section Reading

variable {traffic : Traffic} {index start : Nat} {group topic : String} {delivered : List Inbound}

/-- A fetch of the source is answered with the message where it stands, if there is one. -/
theorem Reads.fetch (h : traffic.Reads index group topic start delivered)
    (hn : traffic.log.Numbered) :
    traffic.perform (.fetch index) =
      match (traffic.log.topic topic)[start + delivered.length]? with
      | none => (.waiting, traffic)
      | some message =>
        (.delivered message, traffic.withSource index
          ⟨group, topic, ((start + (delivered ++ [message]).length : Nat) : Int)⟩) := by
  have hperform : traffic.perform (.fetch index) = _ := ask_of_some h.source
  have hnext : (Source.mk group topic ((start + delivered.length : Nat) : Int)).next? traffic.log =
      (traffic.log.topic topic)[start + delivered.length]? := by
    rw [Source.next?, if_pos (Int.natCast_nonneg _), Int.toNat_natCast]
  rw [hperform, Source.fetch?, hnext]
  cases hm : (traffic.log.topic topic)[start + delivered.length]? with
  | none => rfl
  | some message =>
    have hoffset : message.offset = ((start + delivered.length : Nat) : Int) := (hn _ _ _ hm).2
    simp only [Option.map_some, hoffset, List.length_append, List.length_singleton]
    rfl

/-- What was delivered stays so while the log grows. -/
theorem Reads.delivered_perform (h : traffic.Reads index group topic start delivered)
    (call : Call) :
    delivered =
      (((traffic.perform call).2.log.topic topic).drop start).take delivered.length := by
  have hlength := congrArg List.length h.delivered
  rw [List.length_take] at hlength
  obtain ⟨rest, hrest⟩ := isPrefix_topic_after traffic topic [call]
  have hlog : (traffic.perform call).2.log.topic topic = traffic.log.topic topic ++ rest :=
    hrest.symm
  rw [hlog, List.drop_append, List.take_append_of_le_length (by omega)]
  exact h.delivered

/-- Every call but a rewind of the source lets it read on. -/
theorem Reads.perform (h : traffic.Reads index group topic start delivered)
    (hn : traffic.log.Numbered) {call : Call} (hc : ∀ message, call ≠ .rewind index message) :
    (traffic.perform call).2.Reads index group topic start
      (delivered ++ deliveries index [traffic.exchange call]) := by
  by_cases hf : call = .fetch index
  · subst hf
    have hfetch := h.fetch hn
    rw [exchange, hfetch]
    cases hm : (traffic.log.topic topic)[start + delivered.length]? with
    | none =>
      show traffic.Reads index group topic start (delivered ++ [])
      rwa [List.append_nil]
    | some message =>
      have hdelivered : deliveries index [⟨.fetch index, .delivered message⟩] = [message] := by
        simp [deliveries, Exchange.delivery?]
      obtain ⟨hlt, -⟩ := List.getElem?_eq_some_iff.mp h.source
      rw [hdelivered]
      constructor
      · exact List.getElem?_set_self hlt
      · show _ = List.take _ ((traffic.log.topic topic).drop start)
        rw [List.length_append, List.length_singleton, List.take_add_one, ← h.delivered,
          List.getElem?_drop, hm, Option.toList_some]
  · have hquiet : deliveries index [traffic.exchange call] = [] := by
      rw [deliveries, exchange, List.filterMap_cons_none (Exchange.delivery?_of_ne hf _),
        List.filterMap_nil]
    have hmoves : call.moves? ≠ some index := by
      intro hm
      rcases Call.moves?_eq_some hm with hfetch | ⟨message, hrewind⟩
      · exact hf hfetch
      · exact hc message hrewind
    rw [hquiet, List.append_nil]
    exact ⟨source_perform h.source hmoves, h.delivered_perform call⟩

end Reading

/-- The logs after some calls are numbered. -/
theorem numbered_after (calls : List Call) : (empty.after calls).log.Numbered :=
  fun _ _ _ h => (placed_after h).2

/-- So they are once a source was opened and more calls were made. -/
theorem numbered_opened (group topic : String) (calls later : List Call) :
    ((opened group topic calls).after later).log.Numbered := by
  rw [opened, ← after_append]
  exact numbered_after _

/-- A source that is opened reads its topic from the committed offset on, as long as it is not
rewound. -/
theorem reads_opened {calls : List Call} {group topic : String} {start : Nat}
    (hstart : ((empty.after calls).log.committed? group topic).getD 0 = start)
    (later : List Call)
    (hl : ∀ message, .rewind (empty.after calls).sources.length message ∉ later) :
    ((opened group topic calls).after later).Reads (empty.after calls).sources.length group topic
      start (deliveries (empty.after calls).sources.length
        ((opened group topic calls).history later)) := by
  induction later using List.reverseRecOn with
  | nil =>
    have hopened : opened group topic calls =
        { empty.after calls with
          sources := (empty.after calls).sources ++ [⟨group, topic, start⟩] } := by
      rw [opened, after_concat, ← hstart]
      rfl
    rw [after, hopened]
    exact ⟨List.getElem?_concat_length, rfl⟩
  | append_singleton later call ih =>
    have hreads := ih fun message hm => hl message (List.mem_append_left _ hm)
    have hc : ∀ message, call ≠ .rewind (empty.after calls).sources.length message :=
      fun message he => hl message (he ▸ List.mem_append_right _ List.mem_cons_self)
    rw [after_concat, history_concat, deliveries_append]
    exact hreads.perform (numbered_opened group topic calls later) hc

/-- What holds of a broker that was empty after some calls. -/
structure Orderly (calls : List Call) : Prop where
  /-- In the log of a topic, a message at a place names the topic, and its number is its place. -/
  placed : ∀ (topic : String) (number : Nat) (message : Inbound),
    ((empty.after calls).log.topic topic)[number]? = some message →
      message.topic = topic ∧ message.partition = 0 ∧ message.offset = number
  /-- More calls only append to a log. -/
  kept : ∀ (topic : String) (later : List Call), List.IsPrefix
    ((empty.after calls).log.topic topic) ((empty.after (calls ++ later)).log.topic topic)
  /-- What is appended is what arrives. -/
  arrived : ∀ topic, (empty.after calls).log.topic topic =
    (arrivals topic (empty.history calls)).mapIdx fun number arrival => arrival.written number
  /-- A message is accepted unless the broker was switched off, and then nothing happens. -/
  accepts : ∀ message, if isAvailable calls then
      ((empty.after calls).perform (.send message)).1 = .done
    else (empty.after calls).perform (.send message) =
      (.refused (.publish message.topic "broker transport failure"), empty.after calls)
  /-- The accepted messages are told in order, -/
  sent : (empty.after calls).log.sent =
    ((empty.history calls).filterMap Exchange.arrival?).filterMap Arrival.message?
  /-- and those of a topic are carried by the entries of its log that arrived from publishers. -/
  carried : ∀ topic, List.Forall₂ Outbound.CarriedBy
    ((empty.after calls).log.sent.filter (·.topic = topic)) (sentEntries topic calls)
  /-- A call of another group leaves the committed offsets of a group as they are. -/
  committed : ∀ (call : Call) (group : String), (empty.after calls).group? call ≠ some group →
    ∀ topic, ((empty.after calls).perform call).2.log.committed? group topic =
      (empty.after calls).log.committed? group topic
  /-- A call that moves no source, or another one, leaves a source where it is. -/
  positions : ∀ (call : Call) (index : Nat) (source : Source), call.moves? ≠ some index →
    (empty.after calls).sources[index]? = some source →
      ((empty.after calls).perform call).2.sources[index]? = some source
  /-- A source that is opened and not rewound has delivered the messages of its topic from the
  committed offset on, one after the other, and the next fetch delivers the next one if it is
  there. -/
  delivers : ∀ group topic, ∃ start : Nat,
    ((empty.after calls).log.committed? group topic).getD 0 = start ∧
      ∀ later, (∀ message, .rewind (empty.after calls).sources.length message ∉ later) →
        let index := (empty.after calls).sources.length
        let traffic := (opened group topic calls).after later
        let delivered := deliveries index ((opened group topic calls).history later)
        delivered = ((traffic.log.topic topic).drop start).take delivered.length ∧
          (traffic.perform (.fetch index)).1 =
            match (traffic.log.topic topic)[start + delivered.length]? with
            | none => .waiting
            | some message => .delivered message

/-- However calls of publishers and consumers interleave, the broker keeps append-only logs without
gaps, and sources deliver them without gaps. -/
theorem logs_append_only (calls : List Call) : Orderly calls where
  placed _ _ _ h := placed_after h
  kept topic later := by
    rw [after_append]
    exact isPrefix_topic_after (empty.after calls) topic later
  arrived topic := topic_after topic calls
  accepts message := by
    rw [perform_send, available_after]
    split
    · rfl
    · rfl
  sent := sent_after calls
  carried topic := carriedBy_sentEntries topic calls
  committed call group hc topic := by
    rcases committed?_perform (empty.after calls) call group topic with h | ⟨hg, -⟩
    · exact h
    · exact absurd hg hc
  positions call index source hc h := source_perform h hc
  delivers group topic := by
    obtain ⟨start, hstart⟩ := Int.eq_ofNat_of_zero_le (committed_nonneg_after group topic calls)
    refine ⟨start, hstart, fun later hl => ?_⟩
    have hreads := reads_opened hstart later hl
    refine ⟨hreads.delivered, ?_⟩
    rw [hreads.fetch (numbered_opened group topic calls later)]
    split
    · rfl
    · rfl

/-- The second source of a group starts behind what the first one has committed, and its first fetch
waits. -/
example :
    deliveries 1 (empty.history [.subscribe "pay" "hr", .inject "hr" none [1], .fetch 0,
      .commit 0 ⟨"hr", 0, 0, none, some [1], []⟩, .subscribe "pay" "hr", .fetch 1,
      .inject "hr" none [2], .fetch 1]) = [⟨"hr", 0, 1, none, some [2], []⟩] := by
  decide +kernel

end Traffic
end HrPipeline.Broker
