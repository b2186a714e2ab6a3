import HrPipeline.Proofs.Outbox.Retention
import HrPipeline.Proofs.Publisher.Stages
import HrPipeline.Proofs.Scenario.WorldOutlet

/-!
# What a publisher forwards

A publisher makes messages only of rows that it holds, and it holds only rows that stem from those
of the storage. `forwards_advance` says so of each of its calls, on any storage, whatever the broker
answers and whichever faults are to happen.
-/

namespace HrPipeline

open HrPipeline.Broker HrPipeline.Outbox

namespace Broker

/-- The message carries the payload of a row on the row's topic. -/
def Inbound.IsOf (row : Row) (message : Inbound) : Prop :=
  message.topic = row.topic ∧ message.payload = some row.payload

end Broker

namespace Scenario.World

variable {world after : World}

/-- The storage retains its rows, and the broker is the same. -/
structure Records (before after : World) : Prop where
  storage : before.storage.Retains after.storage
  broker : after.broker = before.broker

theorem Records.of_eq (hs : after.storage = world.storage) (hb : after.broker = world.broker) :
    world.Records after := ⟨hs ▸ .refl _, hb⟩

/-- A claim yields rows that stem from those of the storage. -/
theorem records_claim {limit : Int} {result : Except OutboxError (List Row)}
    (h : world.claim limit = (result, after)) :
    world.Records after ∧
      ∀ batch, result = .ok batch → ∀ row ∈ batch, row.StemsFrom world.storage.rows := by
  unfold claim at h
  split at h
  · obtain ⟨rfl, rfl⟩ := Prod.mk.inj h
    exact ⟨.of_eq rfl rfl, by simp⟩
  · unfold claimRows at h
    split at h
    · next rows storage notices hc =>
      obtain ⟨hretains, hrows⟩ := Storage.retains_claim hc
      rw [noteAll_eq] at h
      obtain ⟨rfl, rfl⟩ := Prod.mk.inj h
      exact ⟨⟨hretains, rfl⟩, fun batch hb => Except.ok.inj hb ▸ hrows⟩
    · obtain ⟨rfl, rfl⟩ := Prod.mk.inj h
      exact ⟨.of_eq rfl rfl, by simp⟩

/-- Keeping the result of a storage call that retains the rows. -/
private theorem records_keep {result : Except OutboxError Storage}
    (hr : ∀ storage, result = .ok storage → world.storage.Retains storage) :
    world.Records (world.keep result).2 := by
  cases result with
  | ok storage => exact ⟨hr storage rfl, rfl⟩
  | error error => exact .of_eq rfl rfl

theorem records_markSent (id : Uuid) (world : World) : world.Records (world.markSent id).2 := by
  unfold markSent
  split
  · exact .of_eq rfl rfl
  · exact records_keep fun _ => Storage.retains_markSent

theorem records_markFailed (id : Uuid) (reason : String) (world : World) :
    world.Records (world.markFailed id reason).2 := by
  unfold markFailed
  split
  · exact .of_eq rfl rfl
  · exact records_keep fun _ => Storage.retains_markFailed

/-- Sending the message of a row leaves the storage alone and appends no other message. -/
theorem messages_send (row : Row) (world : World) :
    (world.send (Outbound.ofRow row)).2.storage = world.storage ∧
      ∀ message ∈ (world.send (Outbound.ofRow row)).2.broker.messages,
        message ∈ world.broker.messages ∨ message.IsOf row := by
  unfold send
  simp only
  split
  · exact ⟨rfl, fun message hm => .inl hm⟩
  · unfold deliver Log.send
    simp only
    by_cases ha : world.broker.available = true
    · rw [if_pos ha]
      refine ⟨rfl, fun message hm => ?_⟩
      rcases List.mem_append.mp hm with hm | hm
      · exact .inl hm
      · obtain rfl := List.mem_singleton.mp hm
        exact .inr ⟨rfl, rfl⟩
    · rw [if_neg ha]
      exact ⟨rfl, fun message hm => .inl hm⟩

end Scenario.World

namespace Publisher

open HrPipeline.Scenario

variable {maxAttempts : Option Int} {batchSize : Int} {world world' : World}
  {stage stage' : Stage}

/-- What a call of a publisher leaves behind. -/
structure Forwards (world : World) (stage stage' : Stage) (world' : World) : Prop where
  storage : world.storage.Retains world'.storage
  messages : ∀ message ∈ world'.broker.messages,
    message ∈ world.broker.messages ∨ ∃ row ∈ stage.rows, message.IsOf row
  rows : ∀ row ∈ stage'.rows, row ∈ stage.rows ∨ row.StemsFrom world.storage.rows

/-- A call that appends no message. -/
private theorem Forwards.of_records (hr : world.Records world')
    (hrows : ∀ row ∈ stage'.rows, row ∈ stage.rows ∨ row.StemsFrom world.storage.rows) :
    Forwards world stage stage' world' :=
  ⟨hr.storage, fun _ hm => .inl (hr.broker ▸ hm), hrows⟩

/-- Recording the outcome of a message and reporting it. -/
private theorem records_record (maxAttempts : Option Int) (row : Row) (report : Report)
    (outcome : Except BrokerError Unit) (world : World) :
    world.Records (record World.outlet maxAttempts row report outcome world).2 := by
  cases outcome with
  | ok _ =>
    have hr := World.records_markSent row.id world
    rcases hs : World.outlet.markSent row.id world with ⟨result, after⟩
    rw [show world.markSent row.id = _ from hs] at hr
    simp only [record, hs]
    cases result <;> exact ⟨hr.storage, hr.broker⟩
  | error error =>
    have hr := World.records_markFailed row.id error.message world
    rcases hs : World.outlet.markFailed row.id error.message world with ⟨result, after⟩
    rw [show world.markFailed row.id error.message = _ from hs] at hr
    simp only [record, hs]
    cases result with
    | error _ => exact ⟨hr.storage, hr.broker⟩
    | ok _ =>
      simp only
      split <;> exact ⟨hr.storage, hr.broker⟩

/-- A call of a publisher adds no row to the storage, and no message but that of a row that it
holds. -/
theorem forwards_advance
    (h : advance World.outlet maxAttempts batchSize stage world = (stage', world')) :
    Forwards world stage stage' world' := by
  cases stage with
  | idle =>
    simp only [advance] at h
    split at h
    · obtain ⟨rfl, rfl⟩ := Prod.mk.inj h
      exact .of_records (.of_eq rfl rfl) (by simp [Stage.rows])
    · rcases hc : World.outlet.claim batchSize world with ⟨error | batch, after⟩ <;>
        obtain ⟨hr, hb⟩ := World.records_claim hc <;>
        simp only [hc, Prod.mk.injEq] at h <;> obtain ⟨rfl, rfl⟩ := h
      · exact .of_records hr (by simp [Stage.rows])
      · exact .of_records hr fun row hm => .inr (hb _ rfl row hm)
  | working rest report =>
    cases rest with
    | nil =>
      obtain ⟨rfl, rfl⟩ := Prod.mk.inj h
      exact .of_records (.of_eq rfl rfl) (by simp [Stage.rows])
    | cons row rest =>
      simp only [advance] at h
      split at h
      · obtain ⟨rfl, rfl⟩ := Prod.mk.inj h
        exact .of_records (.of_eq rfl rfl) (by simp [Stage.rows])
      · obtain ⟨hstorage, hmessages⟩ := World.messages_send row world
        obtain ⟨rfl, rfl⟩ := Prod.mk.inj h
        refine ⟨hstorage ▸ .refl _, fun message hm => ?_, fun held hm => .inl hm⟩
        exact (hmessages message hm).imp_right fun ho => ⟨row, List.mem_cons_self, ho⟩
  | recording row outcome rest report =>
    have hr := records_record maxAttempts row report outcome world
    obtain ⟨rfl, rfl⟩ := Prod.mk.inj h
    exact .of_records hr fun held hm => .inl (List.mem_cons_of_mem row hm)
  | finished result =>
    obtain ⟨rfl, rfl⟩ := Prod.mk.inj h
    exact .of_records (.of_eq rfl rfl) (by simp [Stage.rows])

end Publisher
end HrPipeline
