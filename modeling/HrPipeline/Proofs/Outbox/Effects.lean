import HrPipeline.Proofs.Outbox.Marks
import HrPipeline.Proofs.Outbox.Script

/-!
# What an operation does to the rows

`Record.change` is all that an operation does to a row that is there, told from the operation and
its answer alone. Beyond that an operation only appends rows: those of the drafts that it enlists.
`Storage.rows_perform` says so of both storages at once.
-/

namespace HrPipeline

open HrPipeline.Calendar HrPipeline.Outbox

namespace Outbox

/-- A row as a claim tells of it: with the exact end of the lease, where claims lease rows. -/
def Row.told (lease? : Option Nat) (now : Instant) (row : Row) : Row :=
  match lease? with
  | none => row
  | some lease => { row with nextRetryAt := some (now.add lease) }

/-- A row that is put off to the end of a lease, as the database stores it. -/
def Row.putOff (now : Instant) (lease : Nat) (row : Row) : Row :=
  row.leased (now.add lease).toMicros now.toMicros

namespace Record

/-- An acceptance was recorded for an identifier. -/
def Sends (record : Record) (id : Uuid) : Prop :=
  record.operation = .markSent id ∧ record.answer = .recorded (.ok ())

/-- A failure was recorded for an identifier. -/
def Fails (record : Record) (id : Uuid) (reason : String) : Prop :=
  record.operation = .markFailed id reason ∧ record.answer = .recorded (.ok ())

/-- A claim was answered with the row of an identifier. -/
def Claims (record : Record) (id : Uuid) : Prop :=
  ∃ limit rows, record.operation = .claim limit ∧ record.answer = .claimed (.ok rows) ∧
    id ∈ rows.map (·.id)

/-- A row after an operation, where claims lease rows for so many nanoseconds if at all. -/
def change (lease? : Option Nat) (record : Record) (row : Row) : Row :=
  match record.operation, record.answer, lease? with
  | .markSent id, .recorded (.ok _), _ => if row.id = id then row.markSent record.now else row
  | .markFailed id reason, .recorded (.ok _), _ =>
    if row.id = id then row.markFailed record.now reason else row
  | .claim _, .claimed (.ok rows), some lease =>
    if row.status ≠ .sent ∧ row.id ∈ rows.map (·.id) then row.putOff record.now lease else row
  | _, _, _ => row

end Record

/-- How an operation may move a row. -/
inductive Row.Moves (lease? : Option Nat) (record : Record) (row : Row) : Row → Prop where
  | sent (unsent : row.status ≠ .sent) (by_record : record.Sends row.id) :
    Moves lease? record row (row.markSent record.now)
  | failed (reason : String) (unsent : row.status ≠ .sent)
      (by_record : record.Fails row.id reason) :
    Moves lease? record row (row.markFailed record.now reason)
  | leased (lease : Nat) (leases : lease? = some lease) (unsent : row.status ≠ .sent)
      (by_record : record.Claims row.id) :
    Moves lease? record row (row.putOff record.now lease)
  | kept (unmarked : row.status ≠ .sent →
      ¬ record.Sends row.id ∧ ∀ reason, ¬ record.Fails row.id reason) :
    Moves lease? record row row

/-- A row as it is stored for a draft: no attempt was made yet. The database may have cut surplus
spaces off its texts. -/
def Draft.BecomesRow (draft : Draft) (row : Row) : Prop :=
  ∃ stored now, row = Row.ofDraft stored now ∧ stored.id = draft.id ∧ stored.status = draft.status

@[simp] theorem Row.id_ofDraft (draft : Draft) (now : Instant) :
    (Row.ofDraft draft now).id = draft.id := rfl

theorem isAccepted_of_ok {draft : Draft} (h : draft.check = .ok ()) : draft.isAccepted = true := by
  rw [Draft.isAccepted, h]
  rfl

theorem isAccepted_of_error {draft : Draft} {error : OutboxError} (h : draft.check = .error error) :
    draft.isAccepted = false := by
  rw [Draft.isAccepted, h]
  rfl

/-- Staging drafts answers each with its check and keeps those that pass. -/
theorem enlistEach_attempt (drafts : List Draft) (transaction : Transaction) :
    enlistEach Transaction.attempt drafts transaction =
      (drafts.map Draft.check, ⟨transaction.staged ++ drafts.filter (·.isAccepted)⟩) := by
  induction drafts generalizing transaction with
  | nil => simp [enlistEach]
  | cons draft drafts ih =>
    cases hc : draft.check with
    | error error =>
      have hr := isAccepted_of_error hc
      have ha : Transaction.attempt draft transaction = (.error error, transaction) := by
        simp [Transaction.attempt, Transaction.enlist, hc, bind, Except.bind]
      simp [enlistEach, ha, ih, hc, hr]
    | ok _ =>
      have hr := isAccepted_of_ok hc
      have ha : Transaction.attempt draft transaction =
          (.ok (), ⟨transaction.staged ++ [draft]⟩) := by
        simp [Transaction.attempt, Transaction.enlist, hc, bind, Except.bind]
      simp [enlistEach, ha, ih, hc, hr]

/-- A transaction of the database that has failed stays so. -/
theorem enlistEach_attemptInsert_none (now : Instant) (drafts : List Draft) :
    (enlistEach (attemptInsert now) drafts none).2 = none := by
  induction drafts with
  | nil => rfl
  | cons draft drafts ih =>
    have ha : (attemptInsert now draft none).2 = none := by
      unfold attemptInsert
      cases draft.check <;> rfl
    simp [enlistEach, ha, ih]

/-- A stored draft has its identifier and its status. -/
theorem storedDraft_keeps {draft stored : Draft} (h : Database.storedDraft draft = .ok stored) :
    stored.id = draft.id ∧ stored.status = draft.status := by
  unfold Database.storedDraft at h
  simp only [bind, Except.bind] at h
  repeat' split at h
  all_goals cases h <;> exact ⟨rfl, rfl⟩

/-- A draft that is enlisted becomes a row, under an identifier that no other row has. -/
theorem outbox_enlist {now : Instant} {draft : Draft} {db db' : Database}
    (h : db.enlist now draft = .ok db') :
    ∃ row, db' = { db with outbox := db.outbox ++ [row] } ∧ draft.BecomesRow row ∧
      row.id ∉ db.outbox.map (·.id) := by
  rw [Database.enlist_eq] at h
  cases hc : draft.check with
  | error error => simp [hc, bind, Except.bind] at h
  | ok _ =>
    simp only [hc, Database.insertDraft, bind, Except.bind] at h
    cases hs : Database.storedDraft draft with
    | error error => simp [hs, Except.mapError] at h
    | ok stored =>
      simp only [hs] at h
      split at h
      · cases h
      · next hnew =>
        cases h
        refine ⟨_, rfl, ⟨stored, _, rfl, storedDraft_keeps hs⟩, fun hold => hnew ?_⟩
        obtain ⟨row, hm, hid⟩ := List.mem_map.mp hold
        exact List.any_eq_true.mpr ⟨row, hm, decide_eq_true hid⟩

/-- A transaction of the database that has not failed has appended the rows of the accepted
drafts. -/
theorem outbox_enlistEach {now : Instant} {drafts : List Draft} {db db' : Database}
    (h : (enlistEach (attemptInsert now) drafts (some db)).2 = some db') :
    ∃ added, db' = { db with outbox := db.outbox ++ added } ∧
      List.Forall₂ Draft.BecomesRow (drafts.filter (·.isAccepted)) added := by
  induction drafts generalizing db with
  | nil =>
    cases h
    exact ⟨[], by simp, .nil⟩
  | cons draft drafts ih =>
    cases hc : draft.check with
    | error error =>
      have hr := isAccepted_of_error hc
      have ha : attemptInsert now draft (some db) = (.error error, some db) := by
        simp [attemptInsert, hc]
      simp only [enlistEach, ha] at h
      rw [List.filter_cons_of_neg (by simp [hr])]
      exact ih h
    | ok _ =>
      have hr := isAccepted_of_ok hc
      rw [List.filter_cons_of_pos hr]
      cases he : db.enlist now draft with
      | error error =>
        simp [enlistEach, attemptInsert, hc, he, enlistEach_attemptInsert_none] at h
      | ok next =>
        simp only [enlistEach, attemptInsert, hc, he] at h
        obtain ⟨row, rfl, hrow, -⟩ := outbox_enlist he
        obtain ⟨added, rfl, hadded⟩ := ih h
        exact ⟨row :: added, by simp, .cons hrow hadded⟩

/-- A transaction of the database leaves identifiers apart. -/
theorem nodup_enlistEach {now : Instant} {drafts : List Draft} {db db' : Database}
    (hu : (db.outbox.map (·.id)).Nodup)
    (h : (enlistEach (attemptInsert now) drafts (some db)).2 = some db') :
    (db'.outbox.map (·.id)).Nodup := by
  induction drafts generalizing db with
  | nil => exact Option.some.inj h ▸ hu
  | cons draft drafts ih =>
    cases hc : draft.check with
    | error error =>
      simp only [enlistEach, attemptInsert, hc] at h
      exact ih hu h
    | ok _ =>
      cases he : db.enlist now draft with
      | error error =>
        simp [enlistEach, attemptInsert, hc, he, enlistEach_attemptInsert_none] at h
      | ok next =>
        simp only [enlistEach, attemptInsert, hc, he] at h
        obtain ⟨row, rfl, -, hnew⟩ := outbox_enlist he
        refine ih ?_ h
        simp only [List.map_append, List.map_cons, List.map_nil]
        exact List.nodup_append'.mpr ⟨hu, List.nodup_singleton _, by simpa using hnew⟩

/-- An operation moves a row in one of these ways. -/
theorem Record.moves_change (lease? : Option Nat) (record : Record) (row : Row) :
    row.Moves lease? record (record.change lease? row) := by
  unfold change
  split
  · next id _ hop ha =>
    split
    · next hid =>
      by_cases hs : row.status = .sent
      · rw [Row.markSent_of_sent _ row hs]
        exact .kept fun h => absurd hs h
      · exact .sent hs ⟨hid ▸ hop, ha⟩
    · next hid =>
      exact .kept fun _ => ⟨fun h => hid (Operation.markSent.inj (h.1.symm.trans hop)),
        fun _ h => nomatch hop.symm.trans h.1⟩
  · next id reason _ hop ha =>
    split
    · next hid =>
      by_cases hs : row.status = .sent
      · rw [Row.markFailed_of_sent _ _ row hs]
        exact .kept fun h => absurd hs h
      · exact .failed reason hs ⟨hid ▸ hop, ha⟩
    · next hid =>
      exact .kept fun _ => ⟨fun h => (nomatch hop.symm.trans h.1),
        fun _ h => hid (Operation.markFailed.inj (h.1.symm.trans hop)).1⟩
  · next limit rows lease hop ha =>
    split
    · next h => exact .leased lease rfl h.1 ⟨limit, rows, hop, ha, h.2⟩
    · exact .kept fun _ => ⟨fun h => (nomatch hop.symm.trans h.1),
        fun _ h => nomatch hop.symm.trans h.1⟩
  · next hsends hfails _ =>
    exact .kept fun _ =>
      ⟨fun h => hsends _ () h.1 h.2, fun reason h => hfails _ reason () h.1 h.2⟩

end Outbox

namespace Database

variable {db db' : Database} {mode : ClaimMode} {ceiling : Option Int} {limit : Int}
  {now : Instant} {rows : List Row}

/-- The tables with the rows of some identifiers leased up to an instant. -/
def leased (ids : List Uuid) (due now : Instant) (db : Database) : Database :=
  { db with outbox := changeRows ids (·.leased due now) db.outbox }

/-- The tables after a claim of the rows of some identifiers. -/
def afterClaim (lease? : Option Nat) (ids : List Uuid) (now : Instant) (db : Database) :
    Database :=
  match lease? with
  | none => db
  | some lease => db.leased ids (now.add lease).toMicros now.toMicros

/-- A claim is answered unless its lease is too long or the database refuses the reading of the
clock. -/
theorem claim_of_accepts (hlease : ∀ lease, mode.lease? = some lease → lease ≤ maxLease)
    (ha : Accepts now) (ceiling : Option Int) (limit : Int) :
    db.claim mode ceiling limit now =
      .ok ((db.eligible ceiling limit now).map (·.told mode.lease? now),
        db.afterClaim mode.lease? ((db.eligible ceiling limit now).map (·.id)) now) := by
  cases mode with
  | shared =>
    have htold : (db.eligible ceiling limit now).map (·.told none now) =
        db.eligible ceiling limit now := List.map_id' _
    simp only [claim, if_pos ha, ClaimMode.lease?, afterClaim, htold]
  | skipLocked lease =>
    have hshort : ¬ maxLease < lease := Nat.not_lt.mpr (hlease lease rfl)
    simp only [claim, claimFor, if_neg hshort, if_neg (not_not_intro ha), ClaimMode.lease?]
    rfl

/-- A claim at a reading of the clock that the database refuses is refused, if its lease is not too
long. -/
theorem claim_of_refused (hlease : ∀ lease, mode.lease? = some lease → lease ≤ maxLease)
    (ha : ¬ Accepts now) (ceiling : Option Int) (limit : Int) :
    db.claim mode ceiling limit now = .error (.database outOfRange) := by
  cases mode with
  | shared => exact if_neg ha
  | skipLocked lease =>
    have hshort : ¬ maxLease < lease := Nat.not_lt.mpr (hlease lease rfl)
    simp only [claim, claimFor, if_neg hshort, if_pos ha]

/-- A claim that is answered yields the eligible rows as it tells of them, and leaves behind the
tables with these rows leased, where claims lease rows. -/
theorem claim_ok (h : db.claim mode ceiling limit now = .ok (rows, db')) :
    rows = (db.eligible ceiling limit now).map (·.told mode.lease? now) ∧
      db' = db.afterClaim mode.lease? ((db.eligible ceiling limit now).map (·.id)) now := by
  have hlease : ∀ lease, mode.lease? = some lease → lease ≤ maxLease := by
    intro lease hl
    cases mode with
    | shared => cases hl
    | skipLocked lease' =>
      obtain rfl := Option.some.inj hl
      refine Nat.not_lt.mp fun hlong => ?_
      simp only [claim, claimFor, if_pos hlong] at h
      cases h
  by_cases ha : Accepts now
  · rw [claim_of_accepts hlease ha] at h
    obtain ⟨rfl, rfl⟩ := Prod.mk.inj (Except.ok.inj h)
    exact ⟨rfl, rfl⟩
  · rw [claim_of_refused hlease ha] at h
    cases h

/-- The rows of a claim have the identifiers of the eligible ones. -/
theorem ids_claim (h : db.claim mode ceiling limit now = .ok (rows, db')) :
    rows.map (·.id) = (db.eligible ceiling limit now).map (·.id) := by
  rw [(claim_ok h).1, List.map_map]
  refine List.map_congr_left fun row _ => ?_
  cases hl : mode.lease? <;> rfl

/-- Eligible rows are rows of the outbox that are not sent. -/
theorem mem_eligible {row : Row} (h : row ∈ db.eligible ceiling limit now) :
    row ∈ db.outbox ∧ row.status ≠ .sent := by
  have hrow := List.mem_of_mem_take h
  rw [oldestFirst, List.mem_mergeSort, List.mem_filter] at hrow
  refine ⟨hrow.1, ?_⟩
  have he := hrow.2
  simp only [Row.isEligible, Row.isClaimable, Bool.and_eq_true] at he
  exact of_decide_eq_true he.1.1

/-- A lease puts off the claimed rows, none of which is sent. -/
theorem changeRows_eligible (ht : Tidy db.outbox) (lease : Nat) :
    changeRows ((db.eligible ceiling limit now).map (·.id))
      (·.leased (now.add lease).toMicros now.toMicros) db.outbox =
    db.outbox.map fun row =>
      if row.status ≠ .sent ∧ row.id ∈ (db.eligible ceiling limit now).map (·.id) then
        row.putOff now lease
      else row := by
  refine List.map_congr_left fun row hm => ?_
  by_cases hid : row.id ∈ (db.eligible ceiling limit now).map (·.id)
  · obtain ⟨other, ho, heq⟩ := List.mem_map.mp hid
    obtain ⟨hother, hs⟩ := mem_eligible ho
    obtain rfl := List.inj_on_of_nodup_map ht.ids hother hm heq
    rw [if_pos hid, if_pos ⟨hs, hid⟩]
    rfl
  · rw [if_neg hid, if_neg fun h => hid h.2]

end Database

namespace Storage

variable {storage : Storage} {id : Uuid} {now : Instant}

/-- The storage with other rows. -/
def withRows (rows : List Row) : Storage → Storage
  | .memory store => .memory { store with rows }
  | .database db mode maxAttempts => .database { db with outbox := rows } mode maxAttempts
  | .unreachable => .unreachable

/-- The error of a record about an identifier of which there is no row. -/
def missing (id : Uuid) : Storage → OutboxError
  | .memory _ | .database _ _ _ => .notFound id
  | .unreachable => noConnection

/-- A result under a map is that of a result. -/
theorem ok_of_map {α β : Type} {f : α → β} {result : Except OutboxError α} {b : β}
    (h : result.map f = .ok b) : ∃ a, result = .ok a ∧ f a = b := by
  cases result with
  | error error => cases h
  | ok a => exact ⟨a, rfl, Except.ok.inj h⟩

/-- Recording an acceptance changes the row with the identifier, if there is one. -/
theorem markSent_eq (ht : Tidy storage.rows) (hk : storage.KeepsInstant now) :
    storage.markSent id now =
      if storage.rows.any (·.id = id) then
        .ok (storage.withRows (storage.rows.map fun row =>
          if row.id = id then row.markSent now else row))
      else .error (storage.missing id) := by
  cases storage with
  | memory store =>
    show (store.update id _).map _ = if store.rows.any (·.id = id) then _ else _
    rw [Store.update_eq ht.ids]
    split <;> rfl
  | database db mode maxAttempts =>
    show (db.markSent id now).map _ = if db.outbox.any (·.id = id) then _ else _
    rw [Database.markSent_eq ht hk]
    split <;> rfl
  | unreachable => rfl

/-- Recording a failure for a reason without U+0000 changes the row with the identifier, if there is
one. -/
theorem markFailed_eq (ht : Tidy storage.rows) (hk : storage.KeepsInstant now) {reason : String}
    (hr : '\x00' ∉ reason.toList) :
    storage.markFailed id reason now =
      if storage.rows.any (·.id = id) then
        .ok (storage.withRows (storage.rows.map fun row =>
          if row.id = id then row.markFailed now reason else row))
      else .error (storage.missing id) := by
  cases storage with
  | memory store =>
    show (store.update id _).map _ = if store.rows.any (·.id = id) then _ else _
    rw [Store.update_eq ht.ids]
    split <;> rfl
  | database db mode maxAttempts =>
    show (db.markFailed id reason now).map _ = if db.outbox.any (·.id = id) then _ else _
    rw [Database.markFailed_eq ht hk hr]
    split <;> rfl
  | unreachable => rfl

/-- A failure that is recorded, for whatever reason, has changed the row with the identifier. -/
theorem markFailed_ok (ht : Tidy storage.rows) (hk : storage.KeepsInstant now) {reason : String}
    {after : Storage} (h : storage.markFailed id reason now = .ok after) :
    storage.rows.any (·.id = id) = true ∧
      after = storage.withRows (storage.rows.map fun row =>
        if row.id = id then row.markFailed now reason else row) := by
  cases storage with
  | memory store =>
    have hu : store.markFailed id reason now = _ := Store.update_eq ht.ids
    simp only [Storage.markFailed, hu] at h
    split at h
    · next hany => exact ⟨hany, (Except.ok.inj h).symm⟩
    · cases h
  | database db mode maxAttempts =>
    cases hr : db.markFailed id reason now with
    | error error => simp [Storage.markFailed, hr, Except.map] at h
    | ok db' =>
      obtain ⟨hany, rfl⟩ := Database.markFailed_ok ht hk hr
      simp only [Storage.markFailed, hr, Except.map] at h
      exact ⟨hany, (Except.ok.inj h).symm⟩
  | unreachable => cases h

@[simp] theorem withRows_rows : storage.withRows storage.rows = storage := by
  cases storage <;> rfl

@[simp] theorem rows_withRows_map (change : Row → Row) :
    (storage.withRows (storage.rows.map change)).rows = storage.rows.map change := by
  cases storage <;> rfl

@[simp] theorem withRows_withRows (rows rows' : List Row) :
    (storage.withRows rows).withRows rows' = storage.withRows rows' := by
  cases storage <;> rfl

@[simp] theorem lease?_withRows (rows : List Row) :
    (storage.withRows rows).lease? = storage.lease? := by
  cases storage with
  | memory _ => rfl
  | database _ mode _ => cases mode <;> rfl
  | unreachable => rfl

@[simp] theorem keepsInstant_withRows (rows : List Row) (t : Instant) :
    (storage.withRows rows).KeepsInstant t = storage.KeepsInstant t := by
  cases storage <;> rfl

/-- An operation changes the rows as its record tells, appends some more, and changes nothing
else. -/
structure Appends (storage : Storage) (entry : Entry) (added : List Row) : Prop where
  frame : (storage.perform entry).2 = storage.withRows (storage.perform entry).2.rows
  rows : (storage.perform entry).2.rows =
    storage.rows.map ((storage.record entry).change storage.lease?) ++ added

/-- An operation that leaves the storage as it was, and whose record changes no row. -/
private theorem appends_nil {entry : Entry} (hp : (storage.perform entry).2 = storage)
    (hchange : ∀ row, (storage.record entry).change storage.lease? row = row) :
    storage.Appends entry [] := by
  constructor
  · rw [hp, withRows_rows]
  · rw [hp, List.append_nil, List.map_congr_left fun row _ => hchange row, List.map_id']

/-- An operation that changes each row as its record tells. -/
private theorem appends_map {entry : Entry}
    (hp : (storage.perform entry).2 =
      storage.withRows (storage.rows.map ((storage.record entry).change storage.lease?))) :
    storage.Appends entry [] := by
  constructor
  · rw [hp, rows_withRows_map]
  · rw [hp, rows_withRows_map, List.append_nil]

variable {databaseNow : Instant}

/-- What a record of an attempt is answered, and the storage after it. -/
def recordOutcome (id : Uuid) (change : Row → Row) (storage : Storage) : Answer × Storage :=
  if storage.rows.any (·.id = id) then
    (.recorded (.ok ()), storage.withRows (storage.rows.map fun row =>
      if row.id = id then change row else row))
  else (.recorded (.error (storage.missing id)), storage)

theorem perform_markSent (id : Uuid) (databaseNow : Instant) (ht : Tidy storage.rows)
    (hk : storage.KeepsInstant now) :
    storage.perform ⟨.markSent id, now, databaseNow⟩ =
      storage.recordOutcome id (·.markSent now) := by
  simp only [perform, markSent_eq ht hk, recordOutcome]
  by_cases hany : storage.rows.any (·.id = id) = true
  · rw [if_pos hany, if_pos hany]
  · rw [if_neg hany, if_neg hany]

theorem perform_markFailed (id : Uuid) (databaseNow : Instant) {reason : String}
    (ht : Tidy storage.rows) (hk : storage.KeepsInstant now) (hr : '\x00' ∉ reason.toList) :
    storage.perform ⟨.markFailed id reason, now, databaseNow⟩ =
      storage.recordOutcome id (·.markFailed now reason) := by
  simp only [perform, markFailed_eq ht hk hr, recordOutcome]
  by_cases hany : storage.rows.any (·.id = id) = true
  · rw [if_pos hany, if_pos hany]
  · rw [if_neg hany, if_neg hany]

private theorem appends_markSent (ht : Tidy storage.rows) (hk : storage.KeepsInstant now) :
    storage.Appends ⟨.markSent id, now, databaseNow⟩ [] := by
  have hp := perform_markSent id databaseNow ht hk
  by_cases hany : storage.rows.any (·.id = id) = true
  · rw [recordOutcome, if_pos hany] at hp
    exact appends_map (by rw [record, hp]; rfl)
  · rw [recordOutcome, if_neg hany] at hp
    exact appends_nil (by rw [hp]) fun row => by rw [record, hp]; rfl

private theorem appends_markFailed (ht : Tidy storage.rows) (hk : storage.KeepsInstant now)
    (reason : String) : storage.Appends ⟨.markFailed id reason, now, databaseNow⟩ [] := by
  cases hr : storage.markFailed id reason now with
  | ok after =>
    obtain ⟨-, rfl⟩ := markFailed_ok ht hk hr
    have hp : storage.perform ⟨.markFailed id reason, now, databaseNow⟩ =
        (.recorded (.ok ()), storage.withRows (storage.rows.map fun row =>
          if row.id = id then row.markFailed now reason else row)) := by
      simp only [perform, hr]
    exact appends_map (by rw [record, hp]; rfl)
  | error error =>
    have hp : storage.perform ⟨.markFailed id reason, now, databaseNow⟩ =
        (.recorded (.error error), storage) := by
      simp only [perform, hr]
    exact appends_nil (by rw [hp]) fun row => by rw [record, hp]; rfl

/-- A claim on a database puts off the rows that it is answered with, if it leases rows. -/
private theorem appends_claim_database {db : Database} {mode : ClaimMode}
    {maxAttempts : Option Int} {limit : Int} (hl : ¬ limit ≤ 0) (ht : Tidy db.outbox) :
    (Storage.database db mode maxAttempts).Appends ⟨.claim limit, now, databaseNow⟩ [] := by
  cases hc : db.claim mode maxAttempts limit now with
  | error error =>
    have hp : (Storage.database db mode maxAttempts).perform ⟨.claim limit, now, databaseNow⟩ =
        (.claimed (.error error), .database db mode maxAttempts) := by
      simp only [perform, Storage.claim, if_neg hl, hc, bind, Except.bind]
    exact appends_nil (by rw [hp]) fun row => by rw [record, hp]; rfl
  | ok result =>
    obtain ⟨rows, db'⟩ := result
    have hp : (Storage.database db mode maxAttempts).perform ⟨.claim limit, now, databaseNow⟩ =
        (.claimed (.ok rows), .database db' mode maxAttempts) := by
      simp only [perform, Storage.claim, if_neg hl, hc, bind, Except.bind]
    have hids := Database.ids_claim hc
    obtain ⟨-, rfl⟩ := Database.claim_ok hc
    cases mode with
    | shared => exact appends_nil (by rw [hp]; rfl) fun row => by rw [record, hp]; rfl
    | skipLocked lease =>
      refine appends_map ?_
      rw [record, hp]
      have hrow : Record.change (some lease) ⟨⟨.claim limit, now, databaseNow⟩,
          .claimed (.ok rows)⟩ = fun row =>
          if row.status ≠ .sent ∧
              row.id ∈ (db.eligible maxAttempts limit now).map (·.id) then row.putOff now lease
          else row := by
        rw [← hids]
        rfl
      simp only [withRows, Storage.rows, lease?, ClaimMode.lease?, hrow, Database.afterClaim,
        Database.leased, Database.changeRows_eligible ht lease]

private theorem appends_claim (ht : Tidy storage.rows) (limit : Int) :
    storage.Appends ⟨.claim limit, now, databaseNow⟩ [] := by
  by_cases hl : limit ≤ 0
  · have hp : storage.perform ⟨.claim limit, now, databaseNow⟩ = (.claimed (.ok []), storage) := by
      simp only [perform, Storage.claim, if_pos hl]
    refine appends_nil (by rw [hp]) fun row => ?_
    rw [record, hp]
    cases storage.lease? with
    | none => rfl
    | some lease => simp [Record.change]
  · cases storage with
    | memory store =>
      have hp : (Storage.memory store).perform ⟨.claim limit, now, databaseNow⟩ =
          (.claimed (.ok (store.claim limit now)), .memory store) := by
        simp only [perform, Storage.claim, if_neg hl]
      exact appends_nil (by rw [hp]) fun row => by rw [record, hp]; rfl
    | database db mode maxAttempts => exact appends_claim_database hl ht
    | unreachable =>
      have hp : Storage.unreachable.perform ⟨.claim limit, now, databaseNow⟩ =
          (.claimed (.error noConnection), .unreachable) := by
        simp only [perform, Storage.claim, if_neg hl]
      exact appends_nil (by rw [hp]) fun row => by rw [record, hp]; rfl

/-- A transaction changes no row that is there. -/
private theorem appends_of_transact {drafts : List Draft} {commits : Bool} {added : List Row}
    (hframe : (storage.transact drafts commits now databaseNow).2 =
      storage.withRows (storage.transact drafts commits now databaseNow).2.rows)
    (hrows : (storage.transact drafts commits now databaseNow).2.rows = storage.rows ++ added) :
    storage.Appends ⟨.transact drafts commits, now, databaseNow⟩ added := by
  refine ⟨hframe, ?_⟩
  have hsame : ∀ row ∈ storage.rows,
      (storage.record ⟨.transact drafts commits, now, databaseNow⟩).change storage.lease? row =
        row := fun _ _ => rfl
  rw [List.map_congr_left hsame, List.map_id']
  exact hrows

/-- A transaction appends the rows of the accepted drafts or nothing. -/
theorem appends_transact (drafts : List Draft) (commits : Bool) :
    ∃ added, storage.Appends ⟨.transact drafts commits, now, databaseNow⟩ added ∧
      (added = [] ∨ List.Forall₂ Draft.BecomesRow (drafts.filter (·.isAccepted)) added) := by
  cases commits with
  | false =>
    refine ⟨[], appends_of_transact ?_ ?_, .inl rfl⟩ <;> cases storage <;>
      simp [transact, rows, withRows]
  | true =>
    cases storage with
    | memory store =>
      refine ⟨(drafts.filter (·.isAccepted)).map fun draft => Row.ofDraft draft now,
        appends_of_transact rfl ?_, .inr ?_⟩
      · simp [transact, rows, enlistEach_attempt, Store.rows_commit, Transaction.empty]
      · rw [List.forall₂_map_right_iff, List.forall₂_same]
        exact fun draft _ => ⟨draft, now, rfl, rfl, rfl⟩
    | database db mode maxAttempts =>
      cases ho : (enlistEach (attemptInsert databaseNow) drafts (some db)).2 with
      | none =>
        exact ⟨[], appends_of_transact (by simp [transact, rows, withRows, ho])
          (by simp [transact, rows, ho]), .inl rfl⟩
      | some db' =>
        obtain ⟨added, rfl, hadded⟩ := outbox_enlistEach ho
        exact ⟨added, appends_of_transact (by simp [transact, rows, withRows, ho])
          (by simp [transact, rows, ho]), .inr hadded⟩
    | unreachable =>
      exact ⟨[], appends_of_transact rfl (by simp [transact, rows]), .inl rfl⟩

variable {entry : Entry}

/-- An operation changes the rows as its record tells, and appends the rows of its accepted drafts
or nothing. -/
theorem rows_perform (ht : Tidy storage.rows) (hk : storage.KeepsInstant entry.now) :
    ∃ added, storage.Appends entry added ∧
      (added = [] ∨ List.Forall₂ Draft.BecomesRow entry.operation.accepted added) := by
  obtain ⟨operation, now, databaseNow⟩ := entry
  cases operation with
  | transact drafts commits => exact appends_transact drafts commits
  | claim limit => exact ⟨[], appends_claim ht limit, .inl rfl⟩
  | markSent id => exact ⟨[], appends_markSent ht hk, .inl rfl⟩
  | markFailed id reason => exact ⟨[], appends_markFailed ht hk reason, .inl rfl⟩
  | get id => exact ⟨[], appends_nil rfl fun _ => rfl, .inl rfl⟩

/-- An attempt is recorded only for an identifier of which there is a row. -/
theorem mem_of_recorded (ht : Tidy storage.rows) (hk : storage.KeepsInstant entry.now)
    (h : (storage.record entry).Sends id ∨ ∃ reason, (storage.record entry).Fails id reason) :
    id ∈ storage.rows.map (·.id) := by
  have hmem (hany : storage.rows.any (·.id = id) = true) : id ∈ storage.rows.map (·.id) := by
    simpa using hany
  obtain ⟨operation, now, databaseNow⟩ := entry
  rcases h with ⟨hop, ha⟩ | ⟨reason, hop, ha⟩
  · obtain rfl : operation = .markSent id := hop
    by_cases hany : storage.rows.any (·.id = id) = true
    · exact hmem hany
    · rw [record, perform_markSent id databaseNow ht hk, recordOutcome, if_neg hany] at ha
      cases ha
  · obtain rfl : operation = .markFailed id reason := hop
    cases hr : storage.markFailed id reason now with
    | ok after => exact hmem (markFailed_ok ht hk hr).1
    | error error =>
      simp only [record, perform, hr] at ha
      cases ha

end Storage
end HrPipeline
