import HrPipeline.Proofs.Database.Responses
import HrPipeline.Proofs.Outbox.Lifecycle

/-!
# Attempts at any reading of the clock

What an operation does to rows with identifiers of their own, where claims do not lease them: it
changes at most the row that an attempt is recorded for, and appends the rows of a transaction. At
what readings of the clock it is called makes no difference to what `Row.Counts` follows of a row:
its status, the number of its failures that were recorded, and whether it waits up to an instant
that the storage writes, which for a database is a whole microsecond.
-/

namespace HrPipeline

open HrPipeline.Calendar HrPipeline.Outbox

namespace Outbox

/-- Whether a failure was recorded for an identifier. -/
def Record.failsFor (id : Uuid) (record : Record) : Bool :=
  match record.operation, record.answer with
  | .markFailed other _, .recorded (.ok _) => other = id
  | _, _ => false

/-- How an operation lets a row follow the row that it was: as long as it is not sent, it counts the
failures, and it waits up to an instant that may be written. -/
structure Row.Counts (record : Record) (writes : Instant → Prop) (row row' : Row) : Prop where
  id : row'.id = row.id
  unsent : row'.status ≠ .sent → row.status ≠ .sent
  count : row'.status ≠ .sent →
    row'.retryCount =
      if record.failsFor row.id then nextRetryCount row.retryCount else row.retryCount
  due : ∀ due, row'.nextRetryAt = some due → row.nextRetryAt = some due ∨ writes due

/-- A row for whose identifier no failure is recorded may stay as it is. -/
theorem Row.counts_self {record : Record} {writes : Instant → Prop} {row : Row}
    (h : row.status ≠ .sent → record.failsFor row.id = false) : row.Counts record writes row where
  id := rfl
  unsent hs := hs
  count hs := by simp [h hs]
  due due hd := .inl hd

end Outbox

namespace Storage

/-- A row as the storage writes it. -/
def written (row : Row) : Storage → Row
  | .database _ _ _ => Database.storedRow row
  | .memory _ | .unreachable => row

/-- The instants that the storage writes: any in memory, whole microseconds in a database. -/
def Writes (t : Instant) : Storage → Prop
  | .database _ _ _ => t.IsMicros
  | .memory _ | .unreachable => True

/-- The instant with which a claim compares when rows are due. -/
def reading (now : Instant) : Storage → Instant
  | .database _ _ _ => now.toMicros
  | .memory _ | .unreachable => now

/-- Claims lease no rows, and there is no ceiling on failed attempts. -/
def Unlimited : Storage → Prop
  | .memory store => store.maxAttempts = none
  | .database _ .shared maxAttempts => maxAttempts = none
  | .database _ (.skipLocked _) _ | .unreachable => False

/-- What an operation does to the rows, each of which may change, and some are new. -/
structure Tallies (storage : Storage) (entry : Entry) (change : Row → Row) (added : List Row) :
    Prop where
  after : (storage.perform entry).2 = storage.withRows (storage.rows.map change ++ added)
  counts : ∀ row ∈ storage.rows,
    row.Counts (storage.record entry) storage.Writes (change row)
  new : ∀ row ∈ added, row.retryCount = 0 ∧ row.nextRetryAt = none
  known : ∀ id, (storage.record entry).failsFor id = true → id ∈ storage.rows.map (·.id)

/-- The record of an attempt has changed the row with an identifier, unless it is sent. -/
structure Marks (id : Uuid) (change : Row → Row) (storage next : Storage) : Prop where
  known : id ∈ storage.rows.map (·.id)
  next_eq : next = storage.withRows (storage.rows.map fun row =>
    if row.id = id ∧ row.status ≠ .sent then storage.written (change row) else row)

variable {storage next : Storage} {id : Uuid} {now : Instant}

section Written

variable (storage : Storage) (row : Row)

@[simp] theorem written_id : (storage.written row).id = row.id := by
  cases storage <;> rfl

@[simp] theorem written_status : (storage.written row).status = row.status := by
  cases storage <;> rfl

@[simp] theorem written_retryCount : (storage.written row).retryCount = row.retryCount := by
  cases storage <;> rfl

/-- A written row waits up to an instant that the storage writes. -/
theorem writes_nextRetryAt {due : Instant}
    (h : (storage.written row).nextRetryAt = some due) : storage.Writes due := by
  cases storage with
  | database db mode maxAttempts =>
    obtain ⟨exact, -, rfl⟩ := Option.map_eq_some_iff.mp h
    exact Instant.isMicros_toMicros exact
  | memory _ => trivial
  | unreachable => trivial

end Written

/-- The record of an attempt in memory. -/
theorem marks_update {store store' : Store} {change : Row → Row}
    (hu : (store.rows.map (·.id)).Nodup) (hsent : ∀ row, row.status = .sent → change row = row)
    (h : store.update id change = .ok store') :
    Marks id change (.memory store) (.memory store') := by
  rw [Store.update_eq hu] at h
  split at h
  · next hany =>
    obtain rfl := Except.ok.inj h
    refine ⟨by simpa [rows] using hany, ?_⟩
    have hrows : ∀ row ∈ store.rows, (if row.id = id then change row else row) =
        if row.id = id ∧ row.status ≠ .sent then change row else row := by
      intro row _
      by_cases hs : row.status = .sent
      · simp only [hs, hsent row hs, ne_eq, not_true_eq_false, and_false, ite_self]
      · simp only [hs, ne_eq, not_false_eq_true, and_true]
    exact congrArg (fun rows => Storage.memory { store with rows }) (List.map_congr_left hrows)
  · cases h

/-- The record of an attempt in a database, which reads the row first. -/
theorem marks_marked {db db' : Database} {mode : ClaimMode} {maxAttempts : Option Int}
    {change : Row → Row} (hu : (db.outbox.map (·.id)).Nodup) (h : db.Marked id now change db') :
    Marks id change (.database db mode maxAttempts) (.database db' mode maxAttempts) := by
  -- There is no other row with the identifier, so that the status of the one that is found decides.
  have hone {row : Row} (hr : db.outboxRow? id = some row) :
      ∀ other ∈ db.outbox, other.id = id → other = row := by
    obtain ⟨hm, hid⟩ := Database.mem_of_outboxRow? hr
    exact fun other ho he => List.inj_on_of_nodup_map hu ho hm (he.trans hid.symm)
  have hknown {row : Row} (hr : db.outboxRow? id = some row) : id ∈ db.outbox.map (·.id) := by
    obtain ⟨hm, hid⟩ := Database.mem_of_outboxRow? hr
    exact List.mem_map.mpr ⟨row, hm, hid⟩
  cases h with
  | kept row hr hs =>
    refine ⟨hknown hr, ?_⟩
    have hrows : ∀ other ∈ db.outbox, (if other.id = id ∧ other.status ≠ .sent then
        Database.storedRow (change other) else other) = other := by
      intro other ho
      exact if_neg fun hother => hother.2 (hone hr other ho hother.1 ▸ hs)
    exact congrArg (fun outbox => Storage.database { db with outbox } mode maxAttempts)
      ((List.map_congr_left hrows).trans (List.map_id' _)).symm
  | changed row _ hr hs ha hwritten =>
    refine ⟨hknown hr, ?_⟩
    have hany : db.outbox.any (·.id = id) = true := by simpa using hknown hr
    rw [Database.updateRow_eq hu, if_pos hany] at hwritten
    obtain rfl := Except.ok.inj hwritten
    have hrows : ∀ other ∈ db.outbox, (if other.id = id then
        Database.storedRow (change other) else other) =
        if other.id = id ∧ other.status ≠ .sent then
          Database.storedRow (change other) else other := by
      intro other ho
      by_cases he : other.id = id
      · have hunsent : other.status ≠ .sent := hone hr other ho he ▸ hs
        rw [if_pos he, if_pos ⟨he, hunsent⟩]
      · rw [if_neg he, if_neg fun hother => he hother.1]
    exact congrArg (fun outbox => Storage.database { db with outbox } mode maxAttempts)
      (List.map_congr_left hrows)

/-- An acceptance that is recorded. -/
theorem marks_markSent (hu : (storage.rows.map (·.id)).Nodup)
    (h : storage.markSent id now = .ok next) : Marks id (·.markSent now) storage next := by
  cases storage with
  | memory store =>
    obtain ⟨store', hs, rfl⟩ := ok_of_map h
    exact marks_update hu (fun row => Row.markSent_of_sent now row) hs
  | database db mode maxAttempts =>
    obtain ⟨db', hd, rfl⟩ := ok_of_map h
    exact marks_marked hu (Database.markSent_marked hd)
  | unreachable => cases h

/-- A failure that is recorded. -/
theorem marks_markFailed {reason : String} (hu : (storage.rows.map (·.id)).Nodup)
    (h : storage.markFailed id reason now = .ok next) :
    Marks id (·.markFailed now reason) storage next := by
  cases storage with
  | memory store =>
    obtain ⟨store', hs, rfl⟩ := ok_of_map h
    exact marks_update hu (fun row => Row.markFailed_of_sent now reason row) hs
  | database db mode maxAttempts =>
    obtain ⟨db', hd, rfl⟩ := ok_of_map h
    exact marks_marked hu (Database.markFailed_marked hd)
  | unreachable => cases h

/-- An operation that leaves the storage as it is and records no failure. -/
theorem tallies_self {entry : Entry} {answer : Answer}
    (hp : storage.perform entry = (answer, storage))
    (hf : ∀ id, Record.failsFor id ⟨entry, answer⟩ = false) :
    storage.Tallies entry (fun row => row) [] := by
  have hrecord : storage.record entry = ⟨entry, answer⟩ := by rw [record, hp]
  constructor
  case after => rw [hp, List.append_nil, List.map_id', withRows_rows]
  case counts => exact fun row _ => Row.counts_self fun _ => by rw [hrecord, hf]
  case new => simp
  case known =>
    intro id h
    rw [hrecord, hf] at h
    cases h

/-- A claim without a ceiling is answered with what a store of the same rows selects, and changes
nothing, unless a positive limit meets a reading of the clock that the storage does not accept. -/
theorem Unlimited.perform_claim (h : storage.Unlimited) {limit : Int}
    (ha : 0 < limit → storage.Accepts now) (databaseNow : Instant) :
    storage.perform ⟨.claim limit, now, databaseNow⟩ =
      (.claimed (.ok ((Store.mk storage.rows none).claim limit (storage.reading now))),
        storage) := by
  cases storage with
  | memory store =>
    obtain ⟨rows, maxAttempts⟩ := store
    obtain rfl : maxAttempts = none := h
    exact perform_claim_memory _ limit now databaseNow
  | database db mode maxAttempts =>
    cases mode with
    | shared =>
      obtain rfl : maxAttempts = none := h
      by_cases hl : limit ≤ 0
      · simp only [perform, Storage.claim, if_pos hl, Store.claim_of_nonpos _ limit _ hl]
      · have haccepts : Database.Accepts now := ha (Int.not_le.mp hl)
        simp only [perform, Storage.claim, if_neg hl, Database.claim, if_pos haccepts]
        rfl
    | skipLocked lease => exact h.elim
  | unreachable => exact h.elim

/-- In that case the claim is refused. -/
theorem Unlimited.perform_claim_of_refused (h : storage.Unlimited) {limit : Int} (hl : 0 < limit)
    (ha : ¬ storage.Accepts now) (databaseNow : Instant) :
    storage.perform ⟨.claim limit, now, databaseNow⟩ =
      (.claimed (.error (.database Database.outOfRange)), storage) := by
  cases storage with
  | memory store => exact absurd trivial ha
  | database db mode maxAttempts =>
    cases mode with
    | shared =>
      have hrefuses : ¬ Database.Accepts now := ha
      simp only [perform, Storage.claim, if_neg (Int.not_le.mpr hl), Database.claim,
        if_neg hrefuses]
      rfl
    | skipLocked lease => exact h.elim
  | unreachable => exact h.elim

/-- Whatever it is answered, a claim without a ceiling changes nothing. -/
theorem Unlimited.exists_perform_claim (h : storage.Unlimited) (limit : Int)
    (now databaseNow : Instant) :
    ∃ result, storage.perform ⟨.claim limit, now, databaseNow⟩ = (.claimed result, storage) := by
  by_cases ha : 0 < limit → storage.Accepts now
  · exact ⟨_, h.perform_claim ha databaseNow⟩
  · obtain ⟨hl, hrefuses⟩ := Classical.not_imp.mp ha
    exact ⟨_, h.perform_claim_of_refused hl hrefuses databaseNow⟩

/-- Other rows bring in no limit. -/
theorem Unlimited.withRows (h : storage.Unlimited) (rows : List Row) :
    (storage.withRows rows).Unlimited := by
  cases storage with
  | memory store => exact h
  | database db mode maxAttempts =>
    cases mode with
    | shared => exact h
    | skipLocked lease => exact h
  | unreachable => exact h

@[simp] theorem writes_withRows (rows : List Row) (t : Instant) :
    (storage.withRows rows).Writes t = storage.Writes t := by
  cases storage <;> rfl

@[simp] theorem accepts_withRows (rows : List Row) (t : Instant) :
    (storage.withRows rows).Accepts t = storage.Accepts t := by
  cases storage <;> rfl

theorem Unlimited.rows_withRows (h : storage.Unlimited) (rows : List Row) :
    (storage.withRows rows).rows = rows := by
  cases storage with
  | memory store => rfl
  | database db mode maxAttempts => rfl
  | unreachable => exact h.elim

/-- The record of an attempt, which counts as the change of the row does. -/
theorem Marks.tallies {change : Row → Row} {entry : Entry} (hm : Marks id change storage next)
    (hp : storage.perform entry = (.recorded (.ok ()), next))
    (hfails : ∀ other, (storage.record entry).failsFor other = true → other = id)
    (hcounts : ∀ row : Row, row.id = id → row.status ≠ .sent →
      row.Counts (storage.record entry) storage.Writes (storage.written (change row))) :
    ∃ change, storage.Tallies entry change [] := by
  refine ⟨fun row => if row.id = id ∧ row.status ≠ .sent then
    storage.written (change row) else row, ?_⟩
  constructor
  case after => rw [hp, hm.next_eq, List.append_nil]
  case counts =>
    intro row _
    split
    · next h => exact hcounts row h.1 h.2
    · next h =>
      refine Row.counts_self fun hs => ?_
      rw [Bool.eq_false_iff]
      exact fun hf => h ⟨hfails row.id hf, hs⟩
  case new => simp
  case known =>
    intro other hf
    rw [hfails other hf]
    exact hm.known

/-- An acceptance counts no failure. -/
theorem tallies_markSent (hu : (storage.rows.map (·.id)).Nodup) (databaseNow : Instant) :
    ∃ change, storage.Tallies ⟨.markSent id, now, databaseNow⟩ change [] := by
  cases hr : storage.markSent id now with
  | error error =>
    have hp : storage.perform ⟨.markSent id, now, databaseNow⟩ =
        (.recorded (.error error), storage) := by
      simp only [perform, hr]
    exact ⟨_, tallies_self hp fun _ => rfl⟩
  | ok next =>
    apply (marks_markSent hu hr).tallies
    case hp => simp only [perform, hr]
    case hfails =>
      intro other h
      have hquiet : (storage.record ⟨.markSent id, now, databaseNow⟩).failsFor other = false := rfl
      rw [hquiet] at h
      cases h
    case hcounts =>
      intro row _ _
      have hsent : (storage.written (row.markSent now)).status = .sent := by
        rw [written_status, Row.markSent_status]
      constructor
      · rw [written_id, Row.markSent_id]
      · exact fun hs => absurd hsent hs
      · exact fun hs => absurd hsent hs
      · exact fun due hd => .inr (writes_nextRetryAt storage _ hd)

/-- A failure counts one failure of the row with the identifier. -/
theorem tallies_markFailed (hu : (storage.rows.map (·.id)).Nodup) (reason : String)
    (databaseNow : Instant) :
    ∃ change, storage.Tallies ⟨.markFailed id reason, now, databaseNow⟩ change [] := by
  cases hr : storage.markFailed id reason now with
  | error error =>
    have hp : storage.perform ⟨.markFailed id reason, now, databaseNow⟩ =
        (.recorded (.error error), storage) := by
      simp only [perform, hr]
    exact ⟨_, tallies_self hp fun _ => rfl⟩
  | ok next =>
    have hfails (other : Uuid) : Record.failsFor other
        (storage.record ⟨.markFailed id reason, now, databaseNow⟩) = decide (id = other) := by
      rw [record]
      simp only [perform, hr]
      rfl
    apply (marks_markFailed hu hr).tallies
    case hp => simp only [perform, hr]
    case hfails =>
      intro other h
      rw [hfails] at h
      exact (of_decide_eq_true h).symm
    case hcounts =>
      intro row hid hs
      constructor
      · rw [written_id, Row.markFailed_id]
      · exact fun _ => hs
      · intro _
        rw [hfails, written_retryCount, Row.retryCount_markFailed, if_neg hs,
          if_pos (decide_eq_true hid.symm)]
      · exact fun due hd => .inr (writes_nextRetryAt storage _ hd)

/-- Every operation tallies, whatever the clock reads. -/
theorem exists_tallies (hu : (storage.rows.map (·.id)).Nodup) (h : storage.Unlimited)
    (entry : Entry) : ∃ change added, storage.Tallies entry change added := by
  obtain ⟨operation, now, databaseNow⟩ := entry
  cases operation with
  | transact drafts commits =>
    obtain ⟨added, happends, hadded⟩ := appends_transact drafts commits
    refine ⟨fun row => row, added, ?_⟩
    constructor
    case after =>
      rw [happends.frame, happends.rows]
      rfl
    case counts => exact fun row _ => Row.counts_self fun _ => rfl
    case new =>
      intro row hm
      obtain ⟨draft, -, stored, created, rfl, -⟩ := exists_becomesRow hadded hm
      exact ⟨rfl, rfl⟩
    case known => exact fun _ h => nomatch h
  | claim limit =>
    obtain ⟨result, hp⟩ := h.exists_perform_claim limit now databaseNow
    exact ⟨_, _, tallies_self hp fun _ => rfl⟩
  | markSent id =>
    obtain ⟨change, h⟩ := tallies_markSent hu databaseNow
    exact ⟨change, [], h⟩
  | markFailed id reason =>
    obtain ⟨change, h⟩ := tallies_markFailed hu reason databaseNow
    exact ⟨change, [], h⟩
  | get id => exact ⟨_, _, tallies_self rfl fun _ => rfl⟩

end Storage
end HrPipeline
