import HrPipeline.Proofs.Outbox.Updates
import HrPipeline.Scenario.Enlisting
import HrPipeline.Scenario.Publishing

/-!
# The calls of a publisher in a scenario

What each call does to a store in memory and to the messages that the broker has accepted. Whatever
else a call changes in the world, it touches these two in no other way, and reports nothing. The
commit of a transaction appends to the store and leaves the broker alone.
-/

namespace HrPipeline.Scenario.World

open HrPipeline.Broker HrPipeline.Calendar HrPipeline.Outbox

/-- The storage and the accepted messages are the same in both worlds. -/
structure SameRecord (before after : World) : Prop where
  storage : after.storage = before.storage
  sent : after.broker.sent = before.broker.sent

theorem sameRecord_note (notice : Notice) (world : World) :
    SameRecord world (world.note notice) := ⟨rfl, rfl⟩

/-- Reporting notices changes nothing else. -/
theorem noteAll_eq (notices : List Notice) (world : World) :
    world.noteAll notices = { world with reported := notices.reverse ++ world.reported } := by
  induction notices generalizing world with
  | nil => rfl
  | cons notice notices ih =>
    show (world.note notice).noteAll notices = _
    rw [ih, List.reverse_cons, List.append_assoc]
    rfl

/-- A claim takes no time. -/
theorem clock_claim (limit : Int) (world : World) : (world.claim limit).2.clock = world.clock := by
  unfold claim
  split
  · rfl
  · unfold claimRows
    split
    · rw [noteAll_eq]
    · rfl

/-- Nor does a message that is sent. -/
theorem clock_send (message : Outbound) (world : World) :
    (world.send message).2.clock = world.clock := by
  unfold send
  simp only
  split
  · rfl
  · unfold deliver
    simp only
    split <;> rfl

private theorem clock_keep (result : Except OutboxError Storage) (world : World) :
    (world.keep result).2.clock = world.clock := by
  cases result <;> rfl

theorem clock_markSent (id : Uuid) (world : World) :
    (world.markSent id).2.clock = world.clock := by
  unfold markSent
  split
  · rfl
  · exact clock_keep _ world

theorem clock_markFailed (id : Uuid) (reason : String) (world : World) :
    (world.markFailed id reason).2.clock = world.clock := by
  unfold markFailed
  split
  · rfl
  · exact clock_keep _ world

variable {world after : World} {store : Store}

/-- A claim that goes straight to the store yields the rows that the store selects. -/
theorem claimRows_memory (hm : world.storage = .memory store) (limit : Int) :
    world.claimRows limit = (.ok (store.claim limit world.clock), world) := by
  have hsame : { world with storage := .memory store } = world := by rw [← hm]
  unfold claimRows Storage.claim
  by_cases hl : limit ≤ 0
  · simp only [hm, if_pos hl, noteAll, List.foldl_nil, Store.claim_of_nonpos store limit _ hl,
      hsame]
  · simp only [hm, if_neg hl, noteAll, List.foldl_nil, hsame]

/-- A claim fails as it is to and changes no row, or yields the rows that the store selects. -/
theorem claim_memory_cases (hm : world.storage = .memory store) (limit : Int) :
    (0 < world.faults.claim ∧ ∃ error failed, world.claim limit = (.error error, failed) ∧
        SameRecord world failed ∧ failed.reported = world.reported) ∨
      world.claim limit = (.ok (store.claim limit world.clock), world) := by
  unfold claim
  split
  · next hf => exact .inl ⟨hf, _, _, rfl, ⟨rfl, rfl⟩, rfl⟩
  · exact .inr (claimRows_memory hm limit)

/-- A claim changes nothing and yields rows of the store. -/
theorem claim_memory (hm : world.storage = .memory store) {limit : Int}
    {result : Except OutboxError (List Row)} (h : world.claim limit = (result, after)) :
    SameRecord world after ∧ ∀ batch, result = .ok batch → ∀ row ∈ batch, row ∈ store.rows := by
  rcases claim_memory_cases hm limit with ⟨-, error, failed, hc, hr, -⟩ | hc
  · obtain ⟨rfl, rfl⟩ := Prod.mk.inj (h.symm.trans hc)
    exact ⟨hr, by simp⟩
  · obtain ⟨rfl, rfl⟩ := Prod.mk.inj (h.symm.trans hc)
    refine ⟨⟨rfl, rfl⟩, ?_⟩
    intro batch hb row hm
    cases hb
    exact (Store.mem_claim hm).1

/-- A sent message is among the accepted ones exactly if the broker accepts it. -/
theorem send_memory {message : Outbound} {result : Except BrokerError Unit}
    (h : world.send message = (result, after)) :
    after.storage = world.storage ∧
      after.broker.sent = world.broker.sent ++ if result.isOk then [message] else [] := by
  unfold send at h
  simp only at h
  split at h
  · obtain ⟨rfl, rfl⟩ := h
    exact ⟨rfl, by simp [logSending, Except.isOk, Except.toBool]⟩
  · unfold deliver Log.send at h
    simp only at h
    by_cases ha : world.broker.available = true
    · simp only [if_pos ha, Prod.mk.injEq] at h
      obtain ⟨rfl, rfl⟩ := h
      exact ⟨rfl, by simp [logSending, Log.append, Except.isOk, Except.toBool]⟩
    · simp only [if_neg ha, Prod.mk.injEq] at h
      obtain ⟨rfl, rfl⟩ := h
      exact ⟨rfl, by simp [logSending, Except.isOk, Except.toBool]⟩

/-- A call on a store that changes a row or fails, and then changes nothing. -/
private theorem keep_memory (hm : world.storage = .memory store)
    (hu : (store.rows.map (·.id)).Nodup) {id : Uuid} {change : Row → Row}
    {result : Except OutboxError Unit}
    (h : world.keep ((store.update id change).map .memory) = (result, after)) :
    after.broker = world.broker ∧
      after.storage = .memory { store with
        rows := store.rows.map fun row =>
          if result.isOk ∧ row.id = id then change row else row } := by
  cases hr : store.update id change with
  | error error =>
    rw [hr] at h
    obtain ⟨rfl, rfl⟩ := h
    exact ⟨rfl, by simp [hm, Except.isOk, Except.toBool]⟩
  | ok changed =>
    rw [hr] at h
    obtain ⟨rfl, rfl⟩ := h
    exact ⟨rfl, by simp [Store.rows_update hu hr, Except.isOk, Except.toBool]⟩

/-- The rows stay as they are when a call fails before it gets to the store. -/
private theorem storage_unchanged (hm : world.storage = .memory store) {id : Uuid}
    {change : Row → Row} {result : Except OutboxError Unit} (hr : result.isOk = false) :
    world.storage = .memory { store with
      rows := store.rows.map fun row =>
        if result.isOk ∧ row.id = id then change row else row } := by
  simp [hm, hr]

/-- Recording an acceptance changes the row that it is about if it goes through, and nothing
otherwise. -/
theorem markSent_memory (hm : world.storage = .memory store)
    (hu : (store.rows.map (·.id)).Nodup) {id : Uuid} {result : Except OutboxError Unit}
    (h : world.markSent id = (result, after)) :
    after.broker = world.broker ∧
      after.storage = .memory { store with
        rows := store.rows.map fun row =>
          if result.isOk ∧ row.id = id then row.markSent world.clock else row } := by
  unfold markSent at h
  split at h
  · obtain ⟨rfl, rfl⟩ := h
    exact ⟨rfl, storage_unchanged hm rfl⟩
  · simp only [recordSent, hm, Storage.markSent] at h
    exact keep_memory hm hu h

/-- Recording a failure changes the row that it is about if it goes through, and nothing
otherwise. -/
theorem markFailed_memory (hm : world.storage = .memory store)
    (hu : (store.rows.map (·.id)).Nodup) {id : Uuid} {reason : String}
    {result : Except OutboxError Unit} (h : world.markFailed id reason = (result, after)) :
    after.broker = world.broker ∧
      after.storage = .memory { store with
        rows := store.rows.map fun row =>
          if result.isOk ∧ row.id = id then row.markFailed world.clock reason else row } := by
  unfold markFailed at h
  split at h
  · obtain ⟨rfl, rfl⟩ := h
    exact ⟨rfl, storage_unchanged hm rfl⟩
  · simp only [recordFailed, hm, Storage.markFailed] at h
    exact keep_memory hm hu h

/-- Sending a message reports nothing. -/
theorem reported_send {message : Outbound} {result : Except BrokerError Unit}
    (h : world.send message = (result, after)) : after.reported = world.reported := by
  unfold send at h
  simp only at h
  split at h
  · obtain ⟨rfl, rfl⟩ := h
    rfl
  · unfold deliver at h
    simp only at h
    split at h <;> obtain ⟨rfl, rfl⟩ := h <;> rfl

private theorem reported_keep {stored : Except OutboxError Storage}
    {result : Except OutboxError Unit} (h : world.keep stored = (result, after)) :
    after.reported = world.reported := by
  cases stored <;> obtain ⟨rfl, rfl⟩ := h <;> rfl

/-- Recording an acceptance reports nothing by itself. -/
theorem reported_markSent {id : Uuid} {result : Except OutboxError Unit}
    (h : world.markSent id = (result, after)) : after.reported = world.reported := by
  unfold markSent at h
  split at h
  · obtain ⟨rfl, rfl⟩ := h
    rfl
  · exact reported_keep h

/-- Recording a failure reports nothing by itself. -/
theorem reported_markFailed {id : Uuid} {reason : String} {result : Except OutboxError Unit}
    (h : world.markFailed id reason = (result, after)) : after.reported = world.reported := by
  unfold markFailed at h
  split at h
  · obtain ⟨rfl, rfl⟩ := h
    rfl
  · exact reported_keep h

/-- What was reported from one world to a later one, in order. -/
def reportedSince (before after : World) : List Notice :=
  (after.reported.take (after.reported.length - before.reported.length)).reverse

theorem reportedSince_of_eq (h : after.reported = world.reported) :
    world.reportedSince after = [] := by
  simp [reportedSince, h]

/-- A notice after a call that reports nothing. -/
theorem reportedSince_note (notice : Notice) (h : after.reported = world.reported) :
    world.reportedSince (after.note notice) = [notice] := by
  simp [reportedSince, note, h]

/-- The drafts that are staged in a transaction. -/
def staged (name : String) (world : World) : List Draft :=
  ((world.transactions.lookup name).getD .empty).staged

/-- A commit appends the rows of the staged drafts, at the reading of the clock. -/
theorem commitTransaction_memory (hm : world.storage = .memory store) (name : String) :
    (world.commitTransaction name).storage =
        .memory { store with
          rows := store.rows ++ (world.staged name).map (Row.ofDraft · world.clock) } ∧
      (world.commitTransaction name).broker = world.broker ∧
      (world.commitTransaction name).clock = world.clock := by
  unfold commitTransaction
  rw [hm]
  exact ⟨rfl, rfl, rfl⟩

end HrPipeline.Scenario.World
