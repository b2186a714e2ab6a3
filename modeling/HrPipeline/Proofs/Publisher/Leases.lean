import HrPipeline.Proofs.Outbox.Effects
import HrPipeline.Publisher.Tick

/-!
# Leases change nothing for a publisher on its own

A publisher that leases the rows of a batch puts off their next attempt, and so has changed the
outbox before it sends anything. But it then records the outcome for each of these rows, and every
record overwrites what the lease wrote. So a tick leaves behind the tables that it would have left
behind without leases.

A `Desk` is what a publisher works on: a storage, and any clock and any broker, with all that it has
done. Within a tick, the desks of the two publishers differ in the rows that are yet to be recorded,
and `Database.leased` says how.
-/

namespace HrPipeline

open HrPipeline.Broker HrPipeline.Calendar HrPipeline.Outbox

namespace Outbox.Row

/-- Recording an acceptance overwrites what a lease has written. -/
theorem markSent_leased {row : Row} (hs : row.status ≠ .sent) (due at_ now : Instant) :
    (row.leased due at_).markSent now = row.markSent now := by
  simp [markSent, leased, hs]

/-- Recording a failure overwrites what a lease has written. -/
theorem markFailed_leased {row : Row} (hs : row.status ≠ .sent) (due at_ now : Instant)
    (reason : String) : (row.leased due at_).markFailed now reason = row.markFailed now reason := by
  simp [markFailed, leased, hs]

end Outbox.Row

namespace Database

section Leasing

variable {db : Database} {ids : List Uuid} {due now : Instant}

theorem leased_nil : db.leased [] due now = db := by
  simp [leased, changeRows]

theorem ids_leased : (db.leased ids due now).outbox.map (·.id) = db.outbox.map (·.id) :=
  ids_changeRows (fun row => row.leased_id due now) db.outbox

/-- The rows of the identifiers are in the tables as leased ones. -/
theorem mem_leased {row : Row} (hm : row ∈ db.outbox) (hid : row.id ∈ ids) :
    row.leased due now ∈ (db.leased ids due now).outbox :=
  List.mem_map.mpr ⟨row, hm, if_pos hid⟩

/-- A change that overwrites what a lease has written ends the lease of the row. -/
theorem changed_leased {row : Row} {change : Row → Row} (hu : (db.outbox.map (·.id)).Nodup)
    (hm : row ∈ db.outbox) (hnew : row.id ∉ ids) (hid : ∀ row, (change row).id = row.id)
    (hover : change (row.leased due now) = change row) :
    (db.leased (row.id :: ids) due now).changed row.id change =
      (db.changed row.id change).leased ids due now := by
  unfold changed leased changeRows
  simp only [List.map_map, Database.mk.injEq, and_true]
  refine List.map_congr_left fun other ho => ?_
  simp only [Function.comp_apply]
  by_cases he : other.id = row.id
  · obtain rfl := List.inj_on_of_nodup_map hu ho hm he
    simp [hid, hnew, hover]
  · by_cases hl : other.id ∈ ids
    · simp [he, hl]
    · simp [he, hl]

end Leasing

end Database

namespace Publisher

/-- What a publisher works on, with all that it has done. -/
structure Desk where
  storage : Storage
  /-- How many times the clock was read. -/
  readings : Nat
  /-- The messages that were sent, with the answers of the broker. -/
  sends : List (Outbound × Except BrokerError Unit)
  /-- What the records of outcomes were answered. -/
  records : List (Except OutboxError Unit)
  notices : List Notice
  /-- The report of each tick, with the rows that the tick left behind. -/
  ticks : List (Except OutboxError Report × List Row)

namespace Desk

/-- A desk at which nothing has happened yet. -/
def start (storage : Storage) : Desk := ⟨storage, 0, [], [], [], []⟩

/-- Keeps the storage after a record, or the error. -/
def keep (desk : Desk) : Except OutboxError Storage → Except OutboxError Unit × Desk
  | .ok storage =>
    (.ok (), { desk with
      storage, readings := desk.readings + 1, records := desk.records ++ [.ok ()] })
  | .error error =>
    (.error error, { desk with
      readings := desk.readings + 1, records := desk.records ++ [.error error] })

variable (clock : Nat → Instant)
  (broker : List (Outbound × Except BrokerError Unit) → Outbound → Except BrokerError Unit)
  (maxAttempts : Option Int)

/-- What a publisher calls at its desk. The readings of the clock are given, and so are the answers
of the broker, which may depend on all that was sent before; nothing is cancelled. -/
def outlet : Outlet Desk where
  claim limit desk :=
    match desk.storage.claim limit (clock desk.readings) with
    | .ok (rows, storage, notices) =>
      (.ok rows, { desk with
        storage, readings := desk.readings + 1, notices := desk.notices ++ notices })
    | .error error => (.error error, { desk with readings := desk.readings + 1 })
  send message desk :=
    let answer := broker desk.sends message
    (answer, { desk with sends := desk.sends ++ [(message, answer)] })
  markSent id desk := desk.keep (desk.storage.markSent id (clock desk.readings))
  markFailed id reason desk := desk.keep (desk.storage.markFailed id reason (clock desk.readings))
  cancelled _ := false
  note notice desk := { desk with notices := desk.notices ++ [notice] }

/-- What happens at a desk. -/
inductive Event where
  /-- Drafts are enlisted in a transaction that is then committed or rolled back. -/
  | transact (drafts : List Draft) (commits : Bool) (databaseNow : Instant)
  | tick (batchSize : Int)

/-- A desk after an event. -/
def handle (desk : Desk) : Event → Desk
  | .transact drafts commits databaseNow =>
    { desk with
      storage := (desk.storage.transact drafts commits (clock desk.readings) databaseNow).2 }
  | .tick batchSize =>
    let (report, after) := Publisher.tick (outlet clock broker) maxAttempts batchSize desk
    { after with ticks := after.ticks ++ [(report, after.storage.rows)] }

/-- A desk after a script of events. -/
def run (script : List Event) (desk : Desk) : Desk :=
  script.foldl (handle clock broker maxAttempts) desk

/-- All outcomes were recorded. -/
def Recorded (desk : Desk) : Prop := ∀ result ∈ desk.records, result = .ok ()

section Recording

variable {clock broker maxAttempts} {desk : Desk} {row : Row} {report : Report}

/-- A desk after a record that went through, and a notice. -/
def recorded (storage : Storage) (notice : Notice) (desk : Desk) : Desk :=
  { desk with
    storage, readings := desk.readings + 1, records := desk.records ++ [.ok ()],
    notices := desk.notices ++ [notice] }

theorem record_sent {storage : Storage}
    (h : desk.storage.markSent row.id (clock desk.readings) = .ok storage) :
    record (outlet clock broker) maxAttempts row report (.ok ()) desk =
      ({ report with published := report.published + 1 },
        desk.recorded storage (.published row.id)) := by
  simp only [record, outlet, h, keep]
  rfl

theorem record_failed {error : BrokerError} {storage : Storage}
    (h : desk.storage.markFailed row.id error.message (clock desk.readings) = .ok storage) :
    record (outlet clock broker) maxAttempts row report (.error error) desk =
      ({ report with failed := report.failed + 1 },
        desk.recorded storage
          (if reachesCeiling maxAttempts (nextRetryCount row.retryCount) then .parked row.id
          else .publishFailed row.id)) := by
  simp only [record, outlet, h, keep]
  split <;> rfl

/-- A record that the storage refuses is told of as such. -/
theorem not_recorded_of_records (desk : Desk) {after : Desk} (error : OutboxError)
    (h : after.records = desk.records ++ [.error error]) : ¬ after.Recorded := by
  intro hr
  have herror := hr (.error error) (h ▸ List.mem_append_right _ List.mem_cons_self)
  cases herror

theorem not_recorded_sent {error : OutboxError}
    (h : desk.storage.markSent row.id (clock desk.readings) = .error error) :
    ¬ (record (outlet clock broker) maxAttempts row report (.ok ()) desk).2.Recorded :=
  not_recorded_of_records desk error (by simp only [record, outlet, h, keep])

theorem not_recorded_failed {refusal : BrokerError} {error : OutboxError}
    (h : desk.storage.markFailed row.id refusal.message (clock desk.readings) = .error error) :
    ¬ (record (outlet clock broker) maxAttempts row report (.error refusal) desk).2.Recorded :=
  not_recorded_of_records desk error (by simp only [record, outlet, h, keep])

/-- Every record is answered. -/
theorem records_record (outcome : Except BrokerError Unit) :
    ∃ result, (record (outlet clock broker) maxAttempts row report outcome desk).2.records =
      desk.records ++ [result] := by
  cases outcome with
  | ok accepted =>
    cases h : desk.storage.markSent row.id (clock desk.readings) with
    | ok storage => exact ⟨.ok (), by rw [record_sent h]; rfl⟩
    | error error => exact ⟨.error error, by simp only [record, outlet, h, keep]⟩
  | error refusal =>
    cases h : desk.storage.markFailed row.id refusal.message (clock desk.readings) with
    | ok storage => exact ⟨.ok (), by rw [record_failed h]; rfl⟩
    | error error => exact ⟨.error error, by simp only [record, outlet, h, keep]⟩

end Recording

section Growth

variable {clock broker maxAttempts} {desk : Desk}

/-- Nothing is cancelled between two rows. -/
theorem drain_cons (row : Row) (rest : List Row) (report : Report) :
    drain (outlet clock broker) maxAttempts (row :: rest) report desk =
      drain (outlet clock broker) maxAttempts rest
        (publishRow (outlet clock broker) maxAttempts row report desk).1
        (publishRow (outlet clock broker) maxAttempts row report desk).2 := rfl

theorem records_drain (rest : List Row) (report : Report) :
    desk.records <+: (drain (outlet clock broker) maxAttempts rest report desk).2.records := by
  induction rest generalizing report desk with
  | nil => exact List.prefix_rfl
  | cons row rest ih =>
    have hrow : ∃ result,
        (publishRow (outlet clock broker) maxAttempts row report desk).2.records =
          desk.records ++ [result] := records_record _
    obtain ⟨result, hresult⟩ := hrow
    rw [drain_cons]
    exact (hresult ▸ List.prefix_append _ _).trans (ih _)

/-- A tick that claims rows works them off. -/
theorem tick_of_claim {batchSize : Int} {rows : List Row} {storage : Storage}
    {notices : List Notice}
    (h : desk.storage.claim batchSize (clock desk.readings) = .ok (rows, storage, notices)) :
    Publisher.tick (outlet clock broker) maxAttempts batchSize desk =
      Prod.map .ok id (drain (outlet clock broker) maxAttempts rows
        { Report.empty with claimed := rows.length } { desk with
          storage, readings := desk.readings + 1, notices := desk.notices ++ notices }) := by
  simp only [Publisher.tick, outlet, h, Bool.false_eq_true, if_false]
  rfl

/-- A tick whose claim is refused ends there. -/
theorem tick_of_refused {batchSize : Int} {error : OutboxError}
    (h : desk.storage.claim batchSize (clock desk.readings) = .error error) :
    Publisher.tick (outlet clock broker) maxAttempts batchSize desk =
      (.error error, { desk with readings := desk.readings + 1 }) := by
  simp only [Publisher.tick, outlet, h, Bool.false_eq_true, if_false]

theorem records_handle (event : Event) :
    desk.records <+: (desk.handle clock broker maxAttempts event).records := by
  cases event with
  | transact drafts commits databaseNow => exact List.prefix_rfl
  | tick batchSize =>
    show desk.records <+:
      (Publisher.tick (outlet clock broker) maxAttempts batchSize desk).2.records
    cases h : desk.storage.claim batchSize (clock desk.readings) with
    | error error =>
      rewrite [tick_of_refused h]
      exact List.prefix_rfl
    | ok claimed =>
      obtain ⟨rows, storage, notices⟩ := claimed
      rw [tick_of_claim h, Prod.map_snd]
      have hdrain := @records_drain clock broker maxAttempts
        { desk with storage, readings := desk.readings + 1, notices := desk.notices ++ notices }
      exact hdrain rows _

theorem records_run (script : List Event) :
    desk.records <+: (run clock broker maxAttempts script desk).records := by
  induction script generalizing desk with
  | nil => exact List.prefix_rfl
  | cons event script ih => exact (records_handle event).trans ih

/-- If all outcomes were recorded at the end, then so were those before. -/
theorem Recorded.of_prefix {later : Desk} (h : later.Recorded)
    (hp : desk.records <+: later.records) : desk.Recorded :=
  fun result hm => h result (hp.subset hm)

end Growth

section Simulation

variable {clock broker maxAttempts} {ceiling : Option Int} {lease : Nat} {db : Database}
  {row : Row} {rest : List Row} {report : Report} {desk : Desk}

/-- The rows of a batch are rows of the outbox that are unsent. -/
structure Holding (rest : List Row) (db : Database) : Prop where
  unique : (db.outbox.map (·.id)).Nodup
  apart : (rest.map (·.id)).Nodup
  stored : ∀ row ∈ rest, row ∈ db.outbox ∧ row.status ≠ .sent

/-- A desk with a database that claims by reading alone. -/
def sharing (ceiling : Option Int) (db : Database) (desk : Desk) : Desk :=
  { desk with storage := .database db .shared ceiling }

/-- A desk with a database that claims by a lease. -/
def leasing (lease : Nat) (ceiling : Option Int) (db : Database) (desk : Desk) : Desk :=
  { desk with storage := .database db (.skipLocked lease) ceiling }

/-- The first row of a batch is no longer leased once its outcome is recorded. -/
private theorem Holding.changed (h : Holding (row :: rest) db) (change : Row → Row)
    (hid : ∀ row, (change row).id = row.id) {due now : Instant}
    (hover : change (row.leased due now) = change row) :
    Holding rest (db.changed row.id change) ∧
      (db.leased (row.id :: rest.map (·.id)) due now).changed row.id change =
        (db.changed row.id change).leased (rest.map (·.id)) due now := by
  obtain ⟨hnew, hrest⟩ := List.nodup_cons.mp h.apart
  refine ⟨⟨?_, hrest, fun other hm => ?_⟩, ?_⟩
  · show ((db.outbox.map fun row => _).map _).Nodup
    rw [ids_map hid]
    exact h.unique
  · obtain ⟨hstored, hunsent⟩ := h.stored other (List.mem_cons_of_mem _ hm)
    have hne : other.id ≠ row.id := by
      intro he
      have hheld : row.id ∈ rest.map (·.id) := he ▸ List.mem_map_of_mem hm
      exact hnew hheld
    exact ⟨List.mem_map.mpr ⟨other, hstored, if_neg hne⟩, hunsent⟩
  · exact Database.changed_leased h.unique (h.stored row List.mem_cons_self).1 hnew hid hover

/-- A row that is leased is a row of the tables nevertheless. -/
private theorem Holding.leased (h : Holding (row :: rest) db) (due at_ : Instant) :
    ((db.leased (row.id :: rest.map (·.id)) due at_).outbox.map (·.id)).Nodup ∧
      row.leased due at_ ∈ (db.leased (row.id :: rest.map (·.id)) due at_).outbox := by
  refine ⟨?_, Database.mem_leased (h.stored row List.mem_cons_self).1 List.mem_cons_self⟩
  rw [Database.ids_leased]
  exact h.unique

/-- The acceptance of the first row of a batch is recorded, whether the row is leased or not, unless
the database refuses the reading of the clock. -/
private theorem Holding.markSent (h : Holding (row :: rest) db) (due at_ now : Instant) :
    (∃ error, db.markSent row.id now = .error error) ∨
      ∃ db', Holding rest db' ∧ db.markSent row.id now = .ok db' ∧
        (db.leased (row.id :: rest.map (·.id)) due at_).markSent row.id now =
          .ok (db'.leased (rest.map (·.id)) due at_) := by
  obtain ⟨hstored, hunsent⟩ := h.stored row List.mem_cons_self
  obtain ⟨hunique, hleased⟩ := h.leased due at_
  obtain ⟨hholding, hchanged⟩ := h.changed (fun row => Database.storedRow (row.markSent now))
    (Row.markSent_id now) (congrArg _ (Row.markSent_leased hunsent due at_ now))
  have hshared := Database.markSent_of_unsent h.unique hstored hunsent now
  have hleasing := Database.markSent_of_unsent hunique hleased hunsent now
  by_cases ha : Database.Accepts now
  · rw [if_pos ha] at hshared hleasing
    exact .inr ⟨_, hholding, hshared, hleasing.trans (congrArg Except.ok hchanged)⟩
  · rw [if_neg ha] at hshared
    exact .inl ⟨_, hshared⟩

/-- So is its failure, unless the database refuses the reason as well. -/
private theorem Holding.markFailed (h : Holding (row :: rest) db) (reason : String)
    (due at_ now : Instant) :
    (∃ error, db.markFailed row.id reason now = .error error) ∨
      ∃ db', Holding rest db' ∧ db.markFailed row.id reason now = .ok db' ∧
        (db.leased (row.id :: rest.map (·.id)) due at_).markFailed row.id reason now =
          .ok (db'.leased (rest.map (·.id)) due at_) := by
  obtain ⟨hstored, hunsent⟩ := h.stored row List.mem_cons_self
  obtain ⟨hunique, hleased⟩ := h.leased due at_
  obtain ⟨hholding, hchanged⟩ := h.changed
    (fun row => Database.storedRow (row.markFailed now reason)) (Row.markFailed_id now reason)
    (congrArg _ (Row.markFailed_leased hunsent due at_ now reason))
  have hshared := Database.markFailed_of_unsent h.unique hstored hunsent reason now
  have hleasing := Database.markFailed_of_unsent hunique hleased hunsent reason now
  cases htexts : Database.checkTexts [truncateError reason] with
  | error error =>
    rw [htexts] at hshared
    exact .inl ⟨_, hshared⟩
  | ok _ =>
    simp only [htexts, Except.mapError, Except.bind] at hshared hleasing
    by_cases ha : Database.Accepts now
    · rw [if_pos ha] at hshared hleasing
      exact .inr ⟨_, hholding, hshared, hleasing.trans (congrArg Except.ok hchanged)⟩
    · rw [if_neg ha] at hshared
      exact .inl ⟨_, hshared⟩

/-- The first row of a batch is published in the same way if the batch is leased. -/
private theorem publishRow_leasing (lease : Nat) (due at_ : Instant) (h : Holding (row :: rest) db)
    (hr : (publishRow (outlet clock broker) maxAttempts row report
      (desk.sharing ceiling db)).2.Recorded) :
    ∃ db' report', ∃ after : Desk, Holding rest db' ∧
      publishRow (outlet clock broker) maxAttempts row report (desk.sharing ceiling db) =
        (report', after.sharing ceiling db') ∧
      publishRow (outlet clock broker) maxAttempts row report
          (desk.leasing lease ceiling (db.leased (row.id :: rest.map (·.id)) due at_)) =
        (report', after.leasing lease ceiling (db'.leased (rest.map (·.id)) due at_)) := by
  have hpublish : ∀ desk : Desk,
      publishRow (outlet clock broker) maxAttempts row report desk =
        record (outlet clock broker) maxAttempts row report
          (broker desk.sends (Outbound.ofRow row)) { desk with
            sends := desk.sends ++
              [(Outbound.ofRow row, broker desk.sends (Outbound.ofRow row))] } := fun _ => rfl
  simp only [hpublish, sharing, leasing] at hr ⊢
  cases hb : broker desk.sends (Outbound.ofRow row) with
  | ok accepted =>
    rcases h.markSent due at_ (clock desk.readings) with
      ⟨refusal, hrefused⟩ | ⟨db', hholding, hshared, hleasing⟩
    · rw [hb] at hr
      have hstorage := congrArg (Except.map (Storage.database · .shared ceiling)) hrefused
      exact absurd hr (not_recorded_sent hstorage)
    · exact ⟨db', _, recorded desk.storage (.published row.id) { desk with
          sends := desk.sends ++ [(Outbound.ofRow row, .ok accepted)] }, hholding,
        record_sent (congrArg (Except.map (Storage.database · .shared ceiling)) hshared),
        record_sent
          (congrArg (Except.map (Storage.database · (.skipLocked lease) ceiling)) hleasing)⟩
  | error error =>
    rcases h.markFailed error.message due at_ (clock desk.readings) with
      ⟨refusal, hrefused⟩ | ⟨db', hholding, hshared, hleasing⟩
    · rw [hb] at hr
      have hstorage := congrArg (Except.map (Storage.database · .shared ceiling)) hrefused
      exact absurd hr (not_recorded_failed hstorage)
    · exact ⟨db', _, recorded desk.storage _ { desk with
          sends := desk.sends ++ [(Outbound.ofRow row, .error error)] }, hholding,
        record_failed (congrArg (Except.map (Storage.database · .shared ceiling)) hshared),
        record_failed
          (congrArg (Except.map (Storage.database · (.skipLocked lease) ceiling)) hleasing)⟩

/-- A batch is published in the same way if it is leased, and then no lease is left. -/
private theorem drain_leasing (desk : Desk) (lease : Nat) (due at_ : Instant) (h : Holding rest db)
    (hr : (drain (outlet clock broker) maxAttempts rest report
      (desk.sharing ceiling db)).2.Recorded) :
    ∃ db' report', ∃ after : Desk, (db'.outbox.map (·.id)).Nodup ∧
      drain (outlet clock broker) maxAttempts rest report (desk.sharing ceiling db) =
        (report', after.sharing ceiling db') ∧
      drain (outlet clock broker) maxAttempts rest report
          (desk.leasing lease ceiling (db.leased (rest.map (·.id)) due at_)) =
        (report', after.leasing lease ceiling db') := by
  induction rest generalizing report desk db with
  | nil =>
    refine ⟨db, report, desk, h.unique, rfl, ?_⟩
    rw [List.map_nil, Database.leased_nil]
    rfl
  | cons row rest ih =>
    -- Of the two desks after the first row, the one with leases has those of the other rows only.
    rw [drain_cons] at hr
    obtain ⟨db', report', after, hholding, hshared, hleasing⟩ :=
      publishRow_leasing lease due at_ h (hr.of_prefix (records_drain rest _))
    rw [hshared] at hr
    obtain ⟨db'', report'', after', hunique, hshared', hleasing'⟩ := ih after hholding hr
    refine ⟨db'', report'', after', hunique, ?_, ?_⟩
    · rw [drain_cons, hshared, hshared']
    · rw [drain_cons, List.map_cons, hleasing, hleasing']

/-- Whether rows say when they are due makes no difference for their publication. -/
private theorem drain_due (due : Instant) (rest : List Row) (report : Report) (desk : Desk) :
    drain (outlet clock broker) maxAttempts
        (rest.map fun row => { row with nextRetryAt := some due }) report desk =
      drain (outlet clock broker) maxAttempts rest report desk := by
  induction rest generalizing report desk with
  | nil => rfl
  | cons row rest ih =>
    rw [List.map_cons, drain_cons, drain_cons, ih]
    rfl

/-- The rows that a database selects make a batch. -/
private theorem holding_eligible (hu : (db.outbox.map (·.id)).Nodup) (limit : Int)
    (now : Instant) : Holding (db.eligible ceiling limit now) db := by
  have hclaim : db.eligible ceiling limit now =
      (Store.mk db.outbox ceiling).claim limit now.toMicros := rfl
  refine ⟨hu, ?_, fun row hm => Database.mem_eligible hm⟩
  rw [hclaim]
  exact Store.nodup_claim hu limit now.toMicros

/-- With leases and without, the same rows are claimed, or none is for the same reason. -/
private theorem claim_leasing (hlease : lease ≤ Database.maxLease)
    (hu : (db.outbox.map (·.id)).Nodup) (limit : Int) (now : Instant) :
    (∃ error, (Storage.database db .shared ceiling).claim limit now = .error error ∧
      (Storage.database db (.skipLocked lease) ceiling).claim limit now = .error error) ∨
    ∃ rows notices returned due at_, Holding rows db ∧
      (Storage.database db .shared ceiling).claim limit now =
        .ok (rows, .database db .shared ceiling, notices) ∧
      (Storage.database db (.skipLocked lease) ceiling).claim limit now =
        .ok (rows.map fun row => { row with nextRetryAt := some returned },
          .database (db.leased (rows.map (·.id)) due at_) (.skipLocked lease) ceiling,
          notices) := by
  have hlease : ∀ span, (ClaimMode.skipLocked lease).lease? = some span →
      span ≤ Database.maxLease := by
    rintro span ⟨⟩
    exact hlease
  by_cases hl : limit ≤ 0
  · refine .inr ⟨[], [], now, now, now, ⟨hu, .nil, by simp⟩, if_pos hl, ?_⟩
    rw [List.map_nil, List.map_nil, Database.leased_nil]
    exact if_pos hl
  · simp only [Storage.claim, if_neg hl]
    by_cases ha : Database.Accepts now
    · refine .inr ⟨db.eligible ceiling limit now, [.batchClaimed], now.add lease,
        (now.add lease).toMicros, now.toMicros, holding_eligible hu limit now, ?_, ?_⟩
      · simp only [Database.claim, if_pos ha]
        rfl
      · rw [db.claim_of_accepts hlease ha ceiling limit]
        rfl
    · refine .inl ⟨.database Database.outOfRange, ?_, ?_⟩
      · simp only [Database.claim, if_neg ha]
        rfl
      · rw [db.claim_of_refused hlease ha ceiling limit]
        rfl

/-- A tick comes to the same with leases and without. -/
private theorem tick_leasing {batchSize : Int} (hlease : lease ≤ Database.maxLease)
    (hu : (db.outbox.map (·.id)).Nodup)
    (hr : (Publisher.tick (outlet clock broker) maxAttempts batchSize
      (desk.sharing ceiling db)).2.Recorded) :
    ∃ db' report, ∃ after : Desk, (db'.outbox.map (·.id)).Nodup ∧
      Publisher.tick (outlet clock broker) maxAttempts batchSize (desk.sharing ceiling db) =
        (report, after.sharing ceiling db') ∧
      Publisher.tick (outlet clock broker) maxAttempts batchSize (desk.leasing lease ceiling db) =
        (report, after.leasing lease ceiling db') := by
  rcases claim_leasing hlease hu batchSize (clock desk.readings) with
    ⟨error, hshared, hleasing⟩ | ⟨rows, notices, returned, due, at_, hholding, hshared, hleasing⟩
  · have htick : Publisher.tick (outlet clock broker) maxAttempts batchSize
        (desk.sharing ceiling db) = _ := tick_of_refused hshared
    have htick' : Publisher.tick (outlet clock broker) maxAttempts batchSize
        (desk.leasing lease ceiling db) = _ := tick_of_refused hleasing
    exact ⟨db, .error error, { desk with readings := desk.readings + 1 }, hu, htick, htick'⟩
  · have htick : Publisher.tick (outlet clock broker) maxAttempts batchSize
        (desk.sharing ceiling db) = _ := tick_of_claim hshared
    have htick' : Publisher.tick (outlet clock broker) maxAttempts batchSize
        (desk.leasing lease ceiling db) = _ := tick_of_claim hleasing
    rw [drain_due, List.length_map] at htick'
    rw [htick] at hr
    obtain ⟨db', report, after, hunique, hdrain, hdrain'⟩ := drain_leasing
      { desk with readings := desk.readings + 1, notices := desk.notices ++ notices } lease due at_
      hholding hr
    exact ⟨db', .ok report, after, hunique, htick.trans (congrArg (Prod.map Except.ok id) hdrain),
      htick'.trans (congrArg (Prod.map Except.ok id) hdrain')⟩

/-- So does an event. -/
private theorem handle_leasing (event : Event) (hlease : lease ≤ Database.maxLease)
    (hu : (db.outbox.map (·.id)).Nodup)
    (hr : ((desk.sharing ceiling db).handle clock broker maxAttempts event).Recorded) :
    ∃ db', ∃ after : Desk, (db'.outbox.map (·.id)).Nodup ∧
      (desk.sharing ceiling db).handle clock broker maxAttempts event =
        after.sharing ceiling db' ∧
      (desk.leasing lease ceiling db).handle clock broker maxAttempts event =
        after.leasing lease ceiling db' := by
  cases event with
  | transact drafts commits databaseNow =>
    refine ⟨if commits then
        (enlistEach (attemptInsert databaseNow) drafts (some db)).2.getD db else db, desk,
      ?_, rfl, rfl⟩
    split
    · cases h : (enlistEach (attemptInsert databaseNow) drafts (some db)).2 with
      | none => exact hu
      | some db' => exact nodup_enlistEach hu h
    · exact hu
  | tick batchSize =>
    obtain ⟨db', report, after, hunique, hshared, hleasing⟩ := tick_leasing hlease hu hr
    refine ⟨db', { after with ticks := after.ticks ++ [(report, db'.outbox)] }, hunique,
      ?_, ?_⟩
    · simp only [handle, hshared]
      rfl
    · simp only [handle, hleasing]
      rfl

/-- So does a script of events. -/
private theorem run_leasing (desk : Desk) (script : List Event)
    (hlease : lease ≤ Database.maxLease) (hu : (db.outbox.map (·.id)).Nodup)
    (hr : (run clock broker maxAttempts script (desk.sharing ceiling db)).Recorded) :
    ∃ db', ∃ after : Desk,
      run clock broker maxAttempts script (desk.sharing ceiling db) = after.sharing ceiling db' ∧
      run clock broker maxAttempts script (desk.leasing lease ceiling db) =
        after.leasing lease ceiling db' := by
  induction script generalizing desk db with
  | nil => exact ⟨db, desk, rfl, rfl⟩
  | cons event script ih =>
    have hevent : ((desk.sharing ceiling db).handle clock broker maxAttempts event).Recorded :=
      hr.of_prefix (records_run script)
    obtain ⟨db', after, hunique, hshared, hleasing⟩ := handle_leasing event hlease hu hevent
    simp only [run, List.foldl_cons, hshared, hleasing] at hr ⊢
    exact ih after hunique hr

/-- Leases change nothing for a publisher on its own. Of two publishers with the same tables, the
same script of transactions and ticks, the same readings of the clock and the same answers of the
broker, one claims by reading alone and the other one by leases. If the first one succeeds in
recording all outcomes, then the other one sends the same messages, gives the same reports and
leaves the same tables behind, after every tick and at the end. -/
theorem leases_change_nothing (hlease : lease ≤ Database.maxLease)
    (hids : (db.outbox.map (·.id)).Nodup) (script : List Event)
    (hrecorded : (run clock broker maxAttempts script
      (.start (.database db .shared ceiling))).Recorded) :
    ∃ db', (run clock broker maxAttempts script
        (.start (.database db .shared ceiling))).storage = .database db' .shared ceiling ∧
      run clock broker maxAttempts script (.start (.database db (.skipLocked lease) ceiling)) =
        { run clock broker maxAttempts script (.start (.database db .shared ceiling)) with
          storage := .database db' (.skipLocked lease) ceiling } := by
  obtain ⟨db', after, hshared, hleasing⟩ :=
    run_leasing (.start .unreachable) script hlease hids hrecorded
  have hshared : run clock broker maxAttempts script (.start (.database db .shared ceiling)) =
      after.sharing ceiling db' := hshared
  rw [hshared]
  exact ⟨db', rfl, hleasing⟩

end Simulation

section Retried

/-- A draft with an identifier of its own. -/
def greeting (number : Nat) : Draft :=
  ⟨Uuid.reserved number, none, "employee", "7", "employee.created", "hr", [123, 125], .pending⟩

/-- Tables with a row whose first attempt has failed. -/
def retrying : Database :=
  { Database.empty with
    outbox := [(Row.ofDraft (greeting 1) ⟨1784105400, 0⟩).markFailed ⟨1784105400, 0⟩ "down"] }

/-- The clock is read every twenty seconds. -/
def everyTwenty (reading : Nat) : Instant := ⟨1784105420 + 20 * reading, 0⟩

/-- The broker refuses the first message only. -/
def refusesFirst (sends : List (Outbound × Except BrokerError Unit)) (_ : Outbound) :
    Except BrokerError Unit :=
  if sends.isEmpty then .error (.client "down") else .ok ()

/-- The row is tried in vain, another one is enlisted and sent, and then the first one is. -/
def retries : List Event :=
  [.tick 10, .transact [greeting 2] true ⟨1784105450, 0⟩, .tick 10, .tick 10]

/-- Leases make no difference to these retries: three messages are sent, and in the end both rows
are sent and none is leased. -/
theorem leases_change_nothing_retries :
    (run everyTwenty refusesFirst (some 3) retries
        (.start (.database retrying .shared (some 3)))).sends.map (·.2.isOk) =
          [false, true, true] ∧
      ∃ tables, tables.outbox.map (fun row => (row.id, row.status, row.retryCount,
            row.nextRetryAt)) =
          [(Uuid.reserved 1, .sent, 2, none), (Uuid.reserved 2, .sent, 0, none)] ∧
        run everyTwenty refusesFirst (some 3) retries
            (.start (.database retrying (.skipLocked 30000000500) (some 3))) =
          { run everyTwenty refusesFirst (some 3) retries
              (.start (.database retrying .shared (some 3))) with
            storage := .database tables (.skipLocked 30000000500) (some 3) } := by
  have hlease : 30000000500 ≤ Database.maxLease := by decide
  have hrecorded : (run everyTwenty refusesFirst (some 3) retries
      (.start (.database retrying .shared (some 3)))).Recorded := by
    unfold Recorded
    decide +kernel
  obtain ⟨tables, hstorage, hleasing⟩ :=
    leases_change_nothing hlease (by decide +kernel) retries hrecorded
  refine ⟨by decide +kernel, tables, ?_, hleasing⟩
  have hrows := congrArg Storage.rows hstorage
  rw [show (Storage.database tables .shared (some 3)).rows = tables.outbox from rfl] at hrows
  rw [← hrows]
  decide +kernel

end Retried

end Desk
end Publisher
end HrPipeline
