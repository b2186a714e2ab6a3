import HrPipeline.Proofs.Consumer.Stages
import HrPipeline.Proofs.Scenario.BenchPositions
import Mathlib.Logic.Relation

/-!
# Consumers of one group

A `Group` is any number of consumers that read one topic for one group, each from a position of its
own, with what came of the messages that they processed. At each step one of them makes a call, a
new one subscribes at the committed offset, messages are appended, or anything else in the world
changes. A consumer may stop for ever wherever it stands, and every call may fail.
-/

namespace HrPipeline.Consumer

open HrPipeline.Broker HrPipeline.Scenario

/-- A consumer and where it stands. -/
structure Member where
  worker : Worker
  stage : Stage

/-- The consumers of a group on one world, with what came of the messages that they processed. -/
structure Group where
  world : World
  members : List Member
  outcomes : List (Inbound × Outcome)

namespace Member

/-- A consumer at work in a world. -/
def bench (member : Member) (world : World) : Bench := ⟨world, member.worker, world.clock, 0, []⟩

/-- A consumer after a call. -/
def ofBench (stage : Stage) (pending : Option Inbound) (bench : Bench) : Member :=
  ⟨(bench.leave pending).worker, stage⟩

/-- The offset at which a consumer goes on, once its message is rewound or committed. -/
def resumes (member : Member) : Int :=
  match member.stage with
  | .holding message => message.offset
  | .closing message outcome => if outcome = .retry then message.offset else message.offset + 1
  | .idle | .ready | .finished _ =>
    match member.worker.pending with
    | some message => message.offset
    | none => member.worker.source.position

end Member

namespace Group

/-- One consumer makes its next call, with a handler for its events. -/
def advance {ε : Type} [DomainEvent ε] (handle : ε → Bench → Except EffectError Unit × Bench)
    (index : Nat) (group : Group) : Group :=
  match group.members[index]? with
  | none => group
  | some member =>
    let (stage, pending, bench) := Consumer.advance (Bench.intake handle) member.stage
      member.worker.pending (member.bench group.world)
    { world := bench.world
      members := group.members.set index (.ofBench stage pending bench)
      outcomes := group.outcomes ++ stage.outcome?.toList }

section Equations

variable {ε : Type} [DomainEvent ε] {handle : ε → Bench → Except EffectError Unit × Bench}
  {index : Nat} {group : Group}

theorem advance_of_none (hm : group.members[index]? = none) :
    group.advance handle index = group := by
  simp only [advance, hm]

theorem advance_of_some {member : Member} {stage : Stage} {pending : Option Inbound}
    {bench : Bench} (hm : group.members[index]? = some member)
    (ha : Consumer.advance (Bench.intake handle) member.stage member.worker.pending
      (member.bench group.world) = (stage, pending, bench)) :
    group.advance handle index =
      ⟨bench.world, group.members.set index (.ofBench stage pending bench),
        group.outcomes ++ stage.outcome?.toList⟩ := by
  simp only [advance, hm, ha]

end Equations

/-- A message at an offset was processed with an outcome other than a retry. -/
def Settled (group : Group) (offset : Int) : Prop :=
  ∃ message outcome, (message, outcome) ∈ group.outcomes ∧ message.offset = offset ∧
    outcome ≠ .retry

/-- The committed offset of the group. -/
def committed (name topic : String) (group : Group) : Int :=
  (group.world.broker.committed? name topic).getD 0

/-- The number of messages of the topic. -/
def length (topic : String) (group : Group) : Nat := (group.world.broker.topic topic).length

/-- What can happen next. -/
inductive Step (name topic : String) (group : Group) : Group → Prop where
  /-- A consumer makes its next call. Its handler may answer anything. -/
  | advance {ε : Type} [DomainEvent ε] (handle : ε → Bench → Except EffectError Unit × Bench)
      (hh : ∀ event bench, Bench.SameSource bench (handle event bench).2) (index : Nat) :
      Step name topic group (group.advance handle index)
  /-- A new consumer subscribes. -/
  | subscribe (worker : Worker) (hs : worker.source = group.world.broker.subscribe name topic)
      (hp : worker.pending = none) :
      Step name topic group { group with members := group.members ++ [⟨worker, .idle⟩] }
  /-- Other calls of a consumer are going to fail. -/
  | disturb (index : Nat) (member : Member) (hm : group.members[index]? = some member)
      (worker : Worker) (hs : worker.source = member.worker.source)
      (hp : worker.pending = member.worker.pending) :
      Step name topic group
        { group with members := group.members.set index ⟨worker, member.stage⟩ }
  /-- A message is sent, and accepted or refused. -/
  | send (message : Outbound) :
      Step name topic group { group with world := (group.world.deliver message).2 }
  /-- A message is injected. -/
  | inject (other : String) (key : Option Bytes) (payload : Bytes) :
      Step name topic group { group with
        world := { group.world with broker := group.world.broker.inject other key payload } }
  /-- Anything but the messages and the committed offset of the group changes. -/
  | change (world : World) (hm : world.broker.messages = group.world.broker.messages)
      (hc : world.broker.committed? name topic = group.world.broker.committed? name topic) :
      Step name topic group { group with world }

/-- A group that has no consumers yet, and has processed and committed nothing. -/
structure Starts (name topic : String) (group : Group) : Prop where
  numbered : group.world.broker.Numbered
  committed : group.world.broker.committed? name topic = none
  members : group.members = []
  outcomes : group.outcomes = []

end Group

section Calls

variable {ε : Type} {handle : ε → Bench → Except EffectError Unit × Bench} {bench after : Bench}
  {message : Inbound}

/-- A fetch takes the message at the position of the source, or changes nothing. -/
theorem fetch_cases {result : Option (Except BrokerError Inbound)}
    (h : (Bench.intake handle).fetch bench = (result, after)) :
    ((∀ message, result ≠ some (.ok message)) ∧ Bench.SameSource bench after) ∨
      ∃ message, result = some (.ok message) ∧
        bench.worker.source.fetch? bench.world.broker = some (message, after.worker.source) ∧
        after.world.broker = bench.world.broker := by
  simp only [Bench.intake, Bench.fetch] at h
  split at h
  · obtain ⟨rfl, rfl⟩ := Prod.mk.inj h
    exact .inl ⟨by simp, rfl, rfl⟩
  · split at h
    · next found source hf =>
      obtain ⟨rfl, rfl⟩ := Prod.mk.inj h
      exact .inr ⟨found, rfl, hf, rfl⟩
    · obtain ⟨rfl, rfl⟩ := Prod.mk.inj h
      exact .inl ⟨by simp, rfl, rfl⟩

/-- A rewind sets the source back to the message, or fails and changes nothing. -/
theorem rewind_cases {result : Except BrokerError Unit}
    (h : (Bench.intake handle).rewind message bench = (result, after)) :
    (result = .ok () ∧ after.worker.source = bench.worker.source.rewind message ∧
      after.world.broker = bench.world.broker) ∨
    ((∃ error, result = .error error) ∧ Bench.SameSource bench after) := by
  simp only [Bench.intake, Bench.rewind] at h
  split at h <;> obtain ⟨rfl, rfl⟩ := Prod.mk.inj h
  · exact .inr ⟨⟨_, rfl⟩, rfl, rfl⟩
  · exact .inl ⟨rfl, rfl, rfl⟩

/-- A commit commits the message for the group of the source, or fails and changes nothing. -/
theorem commit_cases {result : Except BrokerError Unit}
    (h : (Bench.intake handle).commit message bench = (result, after)) :
    (result = .ok () ∧ after.worker.source = bench.worker.source ∧
      after.world.broker = bench.world.broker.commit bench.worker.source.group message) ∨
    ((∃ error, result = .error error) ∧ Bench.SameSource bench after) := by
  simp only [Bench.intake, Bench.commit] at h
  split at h <;> obtain ⟨rfl, rfl⟩ := Prod.mk.inj h
  · exact .inr ⟨⟨_, rfl⟩, rfl, rfl⟩
  · exact .inl ⟨rfl, rfl, rfl⟩

variable [DomainEvent ε]

/-- Applying a message leaves the source and the broker alone, if the handler does. -/
theorem sameSource_apply (hh : ∀ event bench, Bench.SameSource bench (handle event bench).2)
    (message : Inbound) (bench : Bench) :
    Bench.SameSource bench (apply (Bench.intake handle) message bench).2 := by
  unfold apply
  cases decode? ε message with
  | none => exact ⟨rfl, rfl⟩
  | some event =>
    have hhandle := hh event bench
    by_cases hhandled : DomainEvent.isHandled event = true
    · simp only [if_pos hhandled, Bench.intake]
      rcases hr : handle event bench with ⟨(_ | _) | _, after⟩ <;>
        rw [hr] at hhandle <;> exact hhandle
    · simp only [if_neg hhandled]
      exact ⟨rfl, rfl⟩

end Calls

end HrPipeline.Consumer
