import HrPipeline.Proofs.Publisher.Stages
import HrPipeline.Proofs.Scenario.WorldOutlet
import HrPipeline.Scenario.Enlisting

/-!
# Publishers that share a store

A `Crew` is any number of publishers on one world, with the calls that they have made. At each step
one of them makes a call, a transaction of new events is committed, or anything else in the world
changes: its clock, whether the broker is available, which calls are to fail. `Advanced` says all
that a call does to the rows, to the accepted messages and to the publisher that makes it.
-/

namespace HrPipeline.Publisher

open HrPipeline.Broker HrPipeline.Calendar HrPipeline.Outbox HrPipeline.Scenario

namespace Call

/-- The row whose message a call got accepted. -/
def accepted? : Call → Option Row
  | send row true => some row
  | send _ false | markSent _ _ | markFailed _ _ => none

/-- Whether a call got the message of a row accepted. -/
def acceptsFor (id : Uuid) : Call → Bool
  | send row accepted => accepted && row.id = id
  | markSent _ _ | markFailed _ _ => false

/-- Whether a call was to record an acceptance for a row. -/
def marksSent (id : Uuid) : Call → Bool
  | markSent other _ => other = id
  | send _ _ | markFailed _ _ => false

/-- Whether a call is about a row. -/
def Concerns (row : Row) : Call → Prop
  | send other _ => other = row
  | markSent id _ | markFailed id _ => id = row.id

/-- A row after a call. -/
def change (now : Instant) (reason : String) (call : Call) (row : Row) : Row :=
  match call with
  | send _ _ => row
  | markSent id recorded => if recorded ∧ row.id = id then row.markSent now else row
  | markFailed id recorded => if recorded ∧ row.id = id then row.markFailed now reason else row

@[simp] theorem origin_change (now : Instant) (reason : String) (call : Call) (row : Row) :
    (call.change now reason row).origin = row.origin := by
  unfold change
  split
  · rfl
  · split
    · exact Row.origin_markSent row now
    · rfl
  · split
    · exact Row.origin_markFailed row now reason
    · rfl

@[simp] theorem id_change (now : Instant) (reason : String) (call : Call) (row : Row) :
    (call.change now reason row).id = row.id :=
  Row.id_eq_of_origin_eq (origin_change now reason call row)

@[simp] theorem createdAt_change (now : Instant) (reason : String) (call : Call) (row : Row) :
    (call.change now reason row).createdAt = row.createdAt := by
  unfold change
  split
  · rfl
  · split
    · exact Row.createdAt_markSent row now
    · rfl
  · split
    · exact Row.createdAt_markFailed row now reason
    · rfl

/-- The record of an acceptance leaves a row as it is or marks it as sent. -/
theorem change_markSent (now : Instant) (reason : String) (id : Uuid) (recorded : Bool)
    (row : Row) :
    (markSent id recorded).change now reason row = row ∨
      row.id = id ∧ (markSent id recorded).change now reason row = row.markSent now := by
  by_cases h : recorded = true ∧ row.id = id
  · exact .inr ⟨h.2, if_pos h⟩
  · exact .inl (if_neg h)

theorem ids_change (now : Instant) (reason : String) (call : Call) (rows : List Row) :
    (rows.map (call.change now reason)).map (·.id) = rows.map (·.id) := by
  rw [List.map_map]
  exact List.map_congr_left fun row _ => id_change now reason call row

end Call

/-- The rows after a call, if there is one. -/
def changeRows (now : Instant) (reason : String) (call? : Option Call) (rows : List Row) :
    List Row :=
  match call? with
  | none => rows
  | some call => rows.map (call.change now reason)

/-- What a call does, or a step of a publisher without a call. -/
structure Advanced (world : World) (store : Store) (stage : Stage) (call? : Option Call)
    (stage' : Stage) (world' : World) : Prop where
  storage : ∃ now reason, world'.storage =
    .memory { store with rows := changeRows now reason call? store.rows }
  sent : world'.broker.sent =
    world.broker.sent ++ (call?.bind Call.accepted?).toList.map Outbound.ofRow
  /-- A publisher that owes the record of an acceptance makes it now. -/
  owed : ∀ id, stage.owes id = call?.any (Call.marksSent id)
  /-- A publisher owes the record of an acceptance from now on if it has just got it. -/
  owes : ∀ id, stage'.owes id = call?.any (Call.acceptsFor id)
  /-- A publisher holds no row but those of the store. -/
  rows : ∀ row ∈ stage'.rows, row ∈ stage.rows ∨ row ∈ store.rows
  concerns : ∀ call, call? = some call → ∃ row ∈ stage.rows, call.Concerns row

section Advancing

variable {maxAttempts : Option Int} {batchSize : Int} {world world' : World} {store : Store}
  {stage stage' : Stage}

/-- A step without a call. -/
private theorem Advanced.quiet (hm : world.storage = .memory store)
    (hr : world.SameRecord world') (ho : ∀ id, stage.owes id = false)
    (ho' : ∀ id, stage'.owes id = false)
    (hrows : ∀ row ∈ stage'.rows, row ∈ stage.rows ∨ row ∈ store.rows) :
    Advanced world store stage none stage' world' where
  storage := ⟨world.clock, "", by simp [hr.storage, hm, changeRows]⟩
  sent := by simp [hr.sent]
  owed id := by simp [ho id]
  owes id := by simp [ho' id]
  rows := hrows
  concerns call h := by cases h

private theorem advance_working (hm : world.storage = .memory store) (rest : List Row)
    (report : Report)
    (h : advance World.outlet maxAttempts batchSize (.working rest report) world =
      (stage', world')) :
    Advanced world store (.working rest report)
      (nextCall? World.outlet (.working rest report) world) stage' world' := by
  cases rest with
  | nil =>
    obtain ⟨rfl, rfl⟩ := h
    exact .quiet hm ⟨rfl, rfl⟩ (fun _ => rfl) (fun _ => rfl) (by simp [Stage.rows])
  | cons row rest =>
    by_cases hc : World.outlet.cancelled world = true
    · simp only [advance, if_pos hc, Prod.mk.injEq] at h
      obtain ⟨rfl, rfl⟩ := h
      simp only [nextCall?, if_pos hc]
      exact .quiet hm ⟨rfl, rfl⟩ (fun _ => rfl) (fun _ => rfl) (by simp [Stage.rows])
    · rcases hs : World.outlet.send (Outbound.ofRow row) world with ⟨outcome, after⟩
      obtain ⟨hstorage, hsent⟩ := World.send_memory hs
      simp only [advance, if_neg hc, hs, Prod.mk.injEq] at h
      obtain ⟨rfl, rfl⟩ := h
      simp only [nextCall?, if_neg hc, hs]
      constructor
      case storage =>
        refine ⟨world.clock, "", ?_⟩
        have hsame : store.rows.map ((Call.send row outcome.isOk).change world.clock "") =
            store.rows := List.map_id store.rows
        rw [hstorage, hm, changeRows, hsame]
      case sent =>
        rw [hsent]
        cases outcome <;> rfl
      case owed =>
        intro id
        rfl
      case owes =>
        intro id
        cases outcome <;> rfl
      case rows =>
        intro held hh
        exact .inl hh
      case concerns =>
        intro call hcall
        cases hcall
        exact ⟨row, List.mem_cons_self, rfl⟩

private theorem advance_recording (hm : world.storage = .memory store)
    (hu : (store.rows.map (·.id)).Nodup) (row : Row) (outcome : Except BrokerError Unit)
    (rest : List Row) (report : Report)
    (h : advance World.outlet maxAttempts batchSize (.recording row outcome rest report) world =
      (stage', world')) :
    Advanced world store (.recording row outcome rest report)
      (nextCall? World.outlet (.recording row outcome rest report) world) stage' world' := by
  -- The rows that are left, the calls that concern the row and what is owed are the same for both
  -- outcomes; they differ in the call that records it.
  have hrows : ∀ {report'}, ∀ held ∈ (Stage.working rest report').rows,
      held ∈ (Stage.recording row outcome rest report).rows ∨ held ∈ store.rows :=
    fun held hh => .inl (List.mem_cons_of_mem row hh)
  cases outcome with
  | ok accepted =>
    rcases hs : World.outlet.markSent row.id world with ⟨result, after⟩
    obtain ⟨hbroker, hstorage⟩ := World.markSent_memory hm hu hs
    have hrecord : ∃ report', stage' = .working rest report' ∧ after.SameRecord world' := by
      simp only [advance, record, hs] at h
      cases result <;> obtain ⟨rfl, rfl⟩ := h <;>
        exact ⟨_, rfl, World.sameRecord_note _ after⟩
    obtain ⟨report', rfl, hr⟩ := hrecord
    simp only [nextCall?, hs]
    constructor
    case storage => exact ⟨world.clock, "", hr.storage.trans hstorage⟩
    case sent => simp [hr.sent, hbroker, Call.accepted?]
    case owed =>
      intro id
      rfl
    case owes =>
      intro id
      rfl
    case rows => exact hrows
    case concerns =>
      intro call hcall
      cases hcall
      exact ⟨row, List.mem_cons_self, rfl⟩
  | error error =>
    rcases hs : World.outlet.markFailed row.id error.message world with ⟨result, after⟩
    obtain ⟨hbroker, hstorage⟩ := World.markFailed_memory hm hu hs
    have hrecord : ∃ report', stage' = .working rest report' ∧ after.SameRecord world' := by
      simp only [advance, record, hs] at h
      cases result with
      | error _ =>
        obtain ⟨rfl, rfl⟩ := h
        exact ⟨_, rfl, World.sameRecord_note _ after⟩
      | ok _ =>
        simp only at h
        split at h <;> obtain ⟨rfl, rfl⟩ := h <;>
          exact ⟨_, rfl, World.sameRecord_note _ after⟩
    obtain ⟨report', rfl, hr⟩ := hrecord
    simp only [nextCall?, hs]
    constructor
    case storage => exact ⟨world.clock, error.message, hr.storage.trans hstorage⟩
    case sent => simp [hr.sent, hbroker, Call.accepted?]
    case owed =>
      intro id
      rfl
    case owes =>
      intro id
      rfl
    case rows => exact hrows
    case concerns =>
      intro call hcall
      cases hcall
      exact ⟨row, List.mem_cons_self, rfl⟩

/-- All that a step of a publisher does, whatever the step is. -/
theorem advanced (hm : world.storage = .memory store) (hu : (store.rows.map (·.id)).Nodup)
    (h : advance World.outlet maxAttempts batchSize stage world = (stage', world')) :
    Advanced world store stage (nextCall? World.outlet stage world) stage' world' := by
  cases stage with
  | idle =>
    simp only [advance] at h
    split at h
    · obtain ⟨rfl, rfl⟩ := h
      exact .quiet hm ⟨rfl, rfl⟩ (fun _ => rfl) (fun _ => rfl) (by simp [Stage.rows])
    · rcases hc : World.outlet.claim batchSize world with ⟨error | batch, after⟩
      · obtain ⟨hr, -⟩ := World.claim_memory hm hc
        simp only [hc, Prod.mk.injEq] at h
        obtain ⟨rfl, rfl⟩ := h
        exact .quiet hm hr (fun _ => rfl) (fun _ => rfl) (by simp [Stage.rows])
      · obtain ⟨hr, hb⟩ := World.claim_memory hm hc
        simp only [hc, Prod.mk.injEq] at h
        obtain ⟨rfl, rfl⟩ := h
        exact .quiet hm hr (fun _ => rfl) (fun _ => rfl) (fun row hh => .inr (hb _ rfl row hh))
  | working rest report => exact advance_working hm rest report h
  | recording row outcome rest report => exact advance_recording hm hu row outcome rest report h
  | finished result =>
    obtain ⟨rfl, rfl⟩ := h
    exact .quiet hm (World.sameRecord_note _ world) (fun _ => rfl) (fun _ => rfl)
      (by simp [Stage.rows])

end Advancing

/-- A publisher with its settings and where it stands. -/
structure Sender where
  maxAttempts : Option Int
  batchSize : Int
  stage : Stage

/-- Publishers on one world, with the calls that they have made. -/
structure Crew where
  world : World
  senders : List Sender
  calls : List Call

namespace Crew

/-- The rows of the store. -/
def rows (crew : Crew) : List Row := crew.world.storage.rows

/-- The number of publishers that have got the message of a row accepted and are yet to record it. -/
def owing (id : Uuid) (crew : Crew) : Nat := crew.senders.countP (·.stage.owes id)

/-- One publisher makes its next call. -/
def advance (index : Nat) (crew : Crew) : Crew :=
  match crew.senders[index]? with
  | none => crew
  | some sender =>
    let (stage, world) :=
      Publisher.advance World.outlet sender.maxAttempts sender.batchSize sender.stage crew.world
    { world
      senders := crew.senders.set index { sender with stage }
      calls := crew.calls ++ (nextCall? World.outlet sender.stage crew.world).toList }

/-- The drafts that are staged in a transaction. -/
def staged (name : String) (crew : Crew) : List Draft :=
  ((crew.world.transactions.lookup name).getD .empty).staged

/-- What can happen next. -/
inductive Step (crew : Crew) : Crew → Prop where
  /-- A publisher makes its next call. -/
  | advance (index : Nat) : Step crew (crew.advance index)
  /-- A transaction of pending events with new identifiers is committed. -/
  | commit (name : String) (hp : ∀ draft ∈ crew.staged name, draft.status = .pending)
      (hu : ((crew.staged name).map (·.id)).Nodup)
      (hf : ∀ draft ∈ crew.staged name, ∀ row ∈ crew.rows, row.id ≠ draft.id) :
      Step crew { crew with world := crew.world.commitTransaction name }
  /-- Anything but the rows and the accepted messages changes. -/
  | change (world : World) (h : crew.world.SameRecord world) : Step crew { crew with world }

/-- What a crew comes to that starts with an empty store in memory. -/
inductive Reachable : Crew → Prop where
  | start (world : World) (senders : List Sender) (ceiling : Option Int)
      (hw : world.storage = .memory (.empty ceiling)) (hb : world.broker.sent = [])
      (hs : ∀ sender ∈ senders, sender.stage = .idle) : Reachable ⟨world, senders, []⟩
  | step {crew crew' : Crew} (h : Reachable crew) (hs : Step crew crew') : Reachable crew'

end Crew
end HrPipeline.Publisher
