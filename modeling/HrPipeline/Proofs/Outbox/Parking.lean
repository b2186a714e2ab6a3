import HrPipeline.Proofs.Outbox.Attempts
import HrPipeline.Proofs.Outbox.Retention
import HrPipeline.Proofs.Outbox.Selection

/-!
# Claims without a ceiling

Without a ceiling on failed attempts, an event is tried again however often it failed. Failures are
counted up to a greatest number though, and at that number a row is no longer claimed. So a row is
claimed when it is due as long as fewer failures than that were recorded, and never again
afterwards. `Storage.Tallied` says that the rows count the failures of a history; it holds after
every script, whatever the clock reads.
-/

namespace HrPipeline

open HrPipeline.Calendar HrPipeline.Outbox

namespace Outbox

/-- How many failures were recorded for an identifier. -/
def failuresFor (id : Uuid) (history : List Record) : Nat := history.countP (·.failsFor id)

theorem failuresFor_concat (id : Uuid) (history : List Record) (record : Record) :
    failuresFor id (history ++ [record]) =
      failuresFor id history + if record.failsFor id then 1 else 0 := by
  rw [failuresFor, List.countP_append, List.countP_singleton]
  rfl

end Outbox

namespace Storage

/-- The rows count the failures of a history. -/
structure Tallied (storage : Storage) (history : List Record) : Prop where
  counted : ∀ row ∈ storage.rows, row.status ≠ .sent →
    row.retryCount = min (failuresFor row.id history : Int) maxRetryCount
  due : ∀ row ∈ storage.rows, ∀ due, row.nextRetryAt = some due → storage.Writes due
  /-- No failure was recorded for an identifier that no row has. -/
  known : ∀ id, id ∉ storage.rows.map (·.id) → failuresFor id history = 0

variable {storage next : Storage} {id : Uuid} {now : Instant}

/-- A storage after an operation: only its rows may be others, and those that were there keep their
identifiers and their places. -/
structure Grows (before after : Storage) : Prop where
  frame : after = before.withRows after.rows
  ids : ∃ added, after.rows.map (·.id) = before.rows.map (·.id) ++ added

theorem Grows.refl (storage : Storage) : storage.Grows storage :=
  ⟨withRows_rows.symm, [], (List.append_nil _).symm⟩

/-- Rows that keep their identifiers, and none besides them. -/
theorem Retains.grows (h : storage.Retains next)
    (hids : next.rows.map (·.id) = storage.rows.map (·.id)) : storage.Grows next :=
  ⟨h.frame, [], hids.trans (List.append_nil _).symm⟩

/-- An acceptance that is recorded keeps the identifiers. -/
theorem grows_markSent (h : storage.markSent id now = .ok next) : storage.Grows next := by
  refine (retains_markSent h).grows ?_
  cases storage with
  | memory store =>
    obtain ⟨store', hs, rfl⟩ := ok_of_map h
    exact Store.ids_update (Row.markSent_id now) hs
  | database db mode maxAttempts =>
    obtain ⟨db', hd, rfl⟩ := ok_of_map h
    exact (Database.touches_markSent hd).ids
  | unreachable => cases h

/-- So does a failure. -/
theorem grows_markFailed {reason : String} (h : storage.markFailed id reason now = .ok next) :
    storage.Grows next := by
  refine (retains_markFailed h).grows ?_
  cases storage with
  | memory store =>
    obtain ⟨store', hs, rfl⟩ := ok_of_map h
    exact Store.ids_update (Row.markFailed_id now reason) hs
  | database db mode maxAttempts =>
    obtain ⟨db', hd, rfl⟩ := ok_of_map h
    exact (Database.touches_markFailed hd).ids
  | unreachable => cases h

/-- Every operation without a ceiling lets the storage grow. -/
theorem Unlimited.grows_perform (h : storage.Unlimited) (entry : Entry) :
    storage.Grows (storage.perform entry).2 := by
  obtain ⟨operation, now, databaseNow⟩ := entry
  cases operation with
  | transact drafts commits =>
    obtain ⟨added, happends, -⟩ := appends_transact drafts commits
    refine ⟨happends.frame, added.map (·.id), ?_⟩
    rw [happends.rows, List.map_append, ids_change]
  | claim limit =>
    obtain ⟨result, hp⟩ := h.exists_perform_claim limit now databaseNow
    rw [hp]
    exact .refl storage
  | markSent id =>
    cases hr : storage.markSent id now with
    | ok after => simpa only [perform, hr] using grows_markSent hr
    | error error => simpa only [perform, hr] using Grows.refl storage
  | markFailed id reason =>
    cases hr : storage.markFailed id reason now with
    | ok after => simpa only [perform, hr] using grows_markFailed hr
    | error error => simpa only [perform, hr] using Grows.refl storage
  | get id => exact .refl storage

/-- A script brings in no limit. -/
theorem Unlimited.after (h : storage.Unlimited) (script : List Entry) :
    (storage.after script).Unlimited := by
  induction script generalizing storage with
  | nil => exact h
  | cons entry script ih =>
    have hperform : (storage.perform entry).2.Unlimited := by
      rw [(h.grows_perform entry).frame]
      exact h.withRows _
    exact ih hperform

/-- Nor does it change what readings of the clock the storage accepts. -/
theorem Unlimited.accepts_after (h : storage.Unlimited) (script : List Entry) (now : Instant) :
    (storage.after script).Accepts now = storage.Accepts now := by
  induction script using List.reverseRecOn with
  | nil => rfl
  | append_singleton script entry ih =>
    rw [after_concat, ((h.after script).grows_perform entry).frame, accepts_withRows, ih]

/-- A row that counts the failures of a history counts those of one operation more. -/
theorem counted_concat {history : List Record} {record : Record} {writes : Instant → Prop}
    {row row' : Row} (hr : row.Counts record writes row')
    (hcounted : row.status ≠ .sent →
      row.retryCount = min (failuresFor row.id history : Int) maxRetryCount)
    (hs : row'.status ≠ .sent) :
    row'.retryCount = min (failuresFor row'.id (history ++ [record]) : Int) maxRetryCount := by
  rw [hr.count hs, hr.id, failuresFor_concat, hcounted (hr.unsent hs), nextRetryCount_min]
  split
  · rfl
  · rfl

/-- One operation more keeps the tally. -/
theorem Tallied.concat {history : List Record} {entry : Entry} {change : Row → Row}
    {added : List Row} (ht : storage.Tallied history) (h : storage.Unlimited)
    (hs : storage.Tallies entry change added)
    (hu : ((storage.perform entry).2.rows.map (·.id)).Nodup) :
    (storage.perform entry).2.Tallied (history ++ [storage.record entry]) := by
  have hids : (storage.rows.map change).map (·.id) = storage.rows.map (·.id) := by
    rw [List.map_map]
    exact List.map_congr_left fun row hm => (hs.counts row hm).id
  have hnone : ∀ id, id ∉ storage.rows.map (·.id) →
      failuresFor id (history ++ [storage.record entry]) = 0 := by
    intro id hid
    rw [failuresFor_concat, ht.known id hid, if_neg fun hf => hid (hs.known id hf)]
  rw [hs.after] at hu ⊢
  rw [h.rows_withRows, List.map_append, hids] at hu
  constructor
  case counted =>
    rw [h.rows_withRows]
    intro row hm hunsent
    rcases List.mem_append.mp hm with hm | hm
    · obtain ⟨before, hb, rfl⟩ := List.mem_map.mp hm
      exact counted_concat (hs.counts before hb) (ht.counted before hb) hunsent
    · have hfresh : row.id ∉ storage.rows.map (·.id) := fun hid =>
        (List.nodup_append.mp hu).2.2 _ hid _ (List.mem_map_of_mem hm) rfl
      rw [(hs.new row hm).1, hnone row.id hfresh]
      rfl
  case due =>
    rw [h.rows_withRows]
    intro row hm due hd
    rw [writes_withRows]
    rcases List.mem_append.mp hm with hm | hm
    · obtain ⟨before, hb, rfl⟩ := List.mem_map.mp hm
      exact ((hs.counts before hb).due due hd).elim (ht.due before hb due) id
    · rw [(hs.new row hm).2] at hd
      cases hd
  case known =>
    rw [h.rows_withRows, List.map_append, hids]
    exact fun id hid => hnone id fun hbefore => hid (List.mem_append_left _ hbefore)

/-- The rows count the failures of the history after every script. -/
theorem Unlimited.tallied_after (h : storage.Unlimited) (hempty : storage.rows = [])
    (script : List Entry) (hu : ((storage.after script).rows.map (·.id)).Nodup) :
    (storage.after script).Tallied (storage.history script) := by
  induction script using List.reverseRecOn with
  | nil => exact ⟨by simp [hempty], by simp [hempty], fun _ _ => rfl⟩
  | append_singleton script entry ih =>
    rw [after_concat] at hu
    obtain ⟨added, hids⟩ := ((h.after script).grows_perform entry).ids
    have hbefore : ((storage.after script).rows.map (·.id)).Nodup := by
      rw [hids] at hu
      exact (List.nodup_append.mp hu).1
    obtain ⟨change, added, htallies⟩ := exists_tallies hbefore (h.after script) entry
    rw [after_concat, history_concat]
    exact (ih hbefore).concat (h.after script) htallies hu

/-- What is due at a reading of the clock is due for the storage. -/
theorem le_reading {due : Instant} (hk : storage.Writes due) (h : due ≤ now) :
    due ≤ storage.reading now := by
  cases storage with
  | database db mode maxAttempts => exact hk.le_toMicros h
  | memory store => exact h
  | unreachable => exact h

/-- Without a ceiling and without leases, a row that is not sent counts the failures that were
recorded for it, up to the greatest number that is counted, whatever happened before. A claim is
answered: one of all rows when the row is due yields it exactly if fewer failures were recorded, and
after that no claim yields it at any time. Only if the reading of the clock lies before all that a
database can store, it refuses to claim any row. -/
theorem claimed_iff_failures_lt (h : storage.Unlimited) (hempty : storage.rows = [])
    (script : List Entry) (hu : ((storage.after script).rows.map (·.id)).Nodup) (limit : Int)
    (now databaseNow : Instant) :
    (∀ row ∈ (storage.after script).rows, row.status ≠ .sent →
      row.retryCount = min (failuresFor row.id (storage.history script) : Int) 2147483647) ∧
    ((0 < limit → storage.Accepts now) →
      ∃ rows, (storage.after script).perform ⟨.claim limit, now, databaseNow⟩ =
          (.claimed (.ok rows), storage.after script) ∧
        ∀ row ∈ (storage.after script).rows, row.status ≠ .sent →
          ((storage.after script).rows.length ≤ limit →
            (∀ due, row.nextRetryAt = some due → due ≤ now) →
            (row ∈ rows ↔ failuresFor row.id (storage.history script) < 2147483647)) ∧
          (2147483647 ≤ failuresFor row.id (storage.history script) → row ∉ rows)) ∧
    (0 < limit → ¬ storage.Accepts now →
      (storage.after script).perform ⟨.claim limit, now, databaseNow⟩ =
        (.claimed (.error (.database Database.outOfRange)), storage.after script)) := by
  have htallied := h.tallied_after hempty script hu
  have hafter := h.after script
  rw [← h.accepts_after script now]
  refine ⟨htallied.counted, fun ha => ?_, fun hl ha => hafter.perform_claim_of_refused hl ha _⟩
  refine ⟨_, hafter.perform_claim ha databaseNow, fun row hm hs => ?_⟩
  have hcount : row.retryCount =
      min (failuresFor row.id (storage.history script) : Int) 2147483647 :=
    htallied.counted row hm hs
  refine ⟨fun hl hdue => ?_, fun hmany hclaimed => ?_⟩
  · rw [Store.mem_claim_iff hl, Row.isEligible_iff]
    constructor
    · intro ⟨_, heligible⟩
      have hunparked : row.retryCount < 2147483647 := heligible.unparked
      omega
    · intro hfew
      refine ⟨hm, hs, fun due hd => ?_, ?_⟩
      · exact le_reading (htallied.due row hm due hd) (hdue due hd)
      · show row.retryCount < 2147483647
        omega
  · obtain ⟨-, heligible⟩ := Store.mem_claim hclaimed
    have hunparked : row.retryCount < 2147483647 :=
      ((Row.isEligible_iff _ _ row).mp heligible).unparked
    omega

section Parcel

/-- A pending event. -/
def parcel : Draft :=
  ⟨Uuid.reserved 1, none, "employee", "7", "employee.created", "hr", [123, 125], .pending⟩

/-- An event is committed and fails some times at once. -/
def failing (times : Nat) : List Entry :=
  ⟨.transact [parcel] true, ⟨0, 0⟩, ⟨0, 0⟩⟩ ::
    List.replicate times ⟨.markFailed parcel.id "down", ⟨0, 1500⟩, ⟨0, 1500⟩⟩

/-- A database without a ceiling. -/
def registry : Storage := .database .empty .shared none

/-- After two failures, of which a database keeps the times in whole microseconds, the event is
claimed when it is due. -/
theorem registry_claims_failing : registry.Unlimited ∧ registry.rows = [] ∧
    ((registry.after (failing 2)).rows.map (·.id)).Nodup ∧
      ∃ rows, (registry.after (failing 2)).perform ⟨.claim 1, ⟨30, 2000⟩, ⟨30, 2000⟩⟩ =
          (.claimed (.ok rows), registry.after (failing 2)) ∧
        ∃ row ∈ rows, row.id = parcel.id ∧ row.retryCount = 2 := by
  have hunlimited : registry.Unlimited := rfl
  have hu : ((registry.after (failing 2)).rows.map (·.id)).Nodup := by decide +kernel
  obtain ⟨hcounted, hanswered, -⟩ :=
    claimed_iff_failures_lt hunlimited rfl (failing 2) hu 1 ⟨30, 2000⟩ ⟨30, 2000⟩
  have haccepts : registry.Accepts ⟨30, 2000⟩ :=
    show Database.Accepts ⟨30, 2000⟩ by decide
  obtain ⟨rows, hperform, hrows⟩ := hanswered fun _ => haccepts
  refine ⟨hunlimited, rfl, hu, rows, hperform, ?_⟩
  have hone : (registry.after (failing 2)).rows.length = 1 := by decide +kernel
  have hfailed : ∀ row ∈ (registry.after (failing 2)).rows, row.id = parcel.id ∧
      row.status ≠ .sent ∧ row.retryCount = 2 ∧ row.nextRetryAt = some ⟨30, 2000⟩ := by
    decide +kernel
  obtain ⟨row, hm⟩ := List.exists_mem_of_length_pos (hone ▸ Nat.one_pos)
  obtain ⟨hid, hs, hretry, hnext⟩ := hfailed row hm
  have hcount := hcounted row hm hs
  obtain ⟨hclaimed, -⟩ := hrows row hm hs
  refine ⟨row, (hclaimed (by omega) fun due hd => ?_).mpr (by omega), hid, hretry⟩
  obtain rfl := Option.some.inj (hnext.symm.trans hd)
  decide

/-- However often the event fails at once, it remains the only one of a store in memory, and it is
due after two and a half minutes. -/
theorem after_failing (times : Nat) :
    ∃ row, (Storage.memory ⟨[], none⟩).after (failing times) = .memory ⟨[row], none⟩ ∧
      row.id = parcel.id ∧ row.status ≠ .sent ∧
      row.retryCount = min (times : Int) maxRetryCount ∧
      ∀ due, row.nextRetryAt = some due → due ≤ ⟨150, 1500⟩ := by
  unfold failing
  induction times with
  | zero =>
    refine ⟨Row.ofDraft parcel ⟨0, 0⟩, ?_, rfl, by decide, rfl, fun due hd => nomatch hd⟩
    decide +kernel
  | succ times ih =>
    obtain ⟨row, hafter, hid, hs, hcount, hdue⟩ := ih
    refine ⟨row.markFailed ⟨0, 1500⟩ "down", ?_, ?_, ?_, ?_, fun due hd => ?_⟩
    · rw [List.replicate_succ', ← List.cons_append, after_concat, hafter]
      simp only [perform, Storage.markFailed, Store.markFailed, Store.update, updateFirst, hid,
        decide_true, if_true]
      rfl
    · rw [Row.markFailed_id, hid]
    · rwa [ne_eq, Row.markFailed_status_iff]
    · rw [Row.retryCount_markFailed, if_neg hs, hcount, nextRetryCount_min]
    · rw [Row.nextRetryAt_markFailed, if_neg hs] at hd
      obtain rfl := Option.some.inj hd
      rw [Instant.addSeconds_of_lt _ _ (by decide), Instant.le_def]
      unfold backoffSeconds
      simp only
      omega

/-- So not every event is tried again forever without a ceiling: this one is not claimed any more
once it has failed so often that no more failures are counted. -/
theorem not_always_claimed_again :
    ¬ ∀ (storage : Storage) (script : List Entry) (limit : Int) (now databaseNow : Instant),
      storage.Unlimited → storage.rows = [] →
        ((storage.after script).rows.map (·.id)).Nodup →
        (storage.after script).rows.length ≤ limit →
        ∀ row ∈ (storage.after script).rows, row.status ≠ .sent →
          (∀ due, row.nextRetryAt = some due → due ≤ now) →
          ∃ rows, ((storage.after script).perform ⟨.claim limit, now, databaseNow⟩).1 =
            .claimed (.ok rows) ∧ row ∈ rows := by
  intro h
  obtain ⟨row, hafter, hid, hs, hcount, hdue⟩ := after_failing 2147483647
  have hclaims := h (.memory ⟨[], none⟩) (failing 2147483647) 1 ⟨150, 1500⟩ ⟨150, 1500⟩ rfl rfl
  rw [hafter, perform_claim_memory] at hclaims
  obtain ⟨rows, hanswer, hclaimed⟩ := hclaims (List.nodup_singleton _) (by simp [Storage.rows]) row
    List.mem_cons_self hs hdue
  obtain rfl := Except.ok.inj (Answer.claimed.inj hanswer)
  have hunparked : row.retryCount < 2147483647 :=
    ((Row.isEligible_iff _ _ row).mp (Store.mem_claim hclaimed).2).unparked
  unfold maxRetryCount at hcount
  omega

end Parcel
end Storage
end HrPipeline
