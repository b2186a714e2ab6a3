import HrPipeline.Proofs.Outbox.Effects
import Mathlib.Data.List.Induction

/-!
# The life of a row

A row is committed as pending. It stays so until an attempt to send its message is recorded, and is
failed or sent from then on; a failed row may fail again or be sent, and a sent one never changes.
`Row.Follows` says what one operation may do to a row, `Row.Descends` what a run may do, and
`Row.Told` what the history of a run tells of a row at its end.

The runs are those of operations that have their answers. One that would set an instant after the
end of the clock has none (`Calendar/Instant`), and the run ends before it.
-/

namespace HrPipeline

open HrPipeline.Calendar HrPipeline.Outbox

namespace Outbox

/-- A row and what has become of it: its event and the instant of its commit are the same, it has
not failed less often, and if it was sent, nothing has changed. -/
structure Row.Descends (row row' : Row) : Prop where
  origin : row'.origin = row.origin
  createdAt : row'.createdAt = row.createdAt
  retryCount : row.retryCount ≤ row'.retryCount
  final : row.status = .sent → row' = row

/-- The changes of status that an attempt may make. -/
def transitions : List (Status × Status) :=
  [(.pending, .sent), (.pending, .failed), (.failed, .failed), (.failed, .sent)]

/-- A row before and after one operation, which may lease rows or not. -/
structure Row.Follows (leases : Prop) (row row' : Row) : Prop extends Row.Descends row row' where
  change : row' = row ∨ (row.status, row'.status) ∈ transitions ∨
    leases ∧ row' = { row with nextRetryAt := row'.nextRetryAt, updatedAt := row'.updatedAt }

/-- Every row that was there is related to the row in its place; others may follow. -/
def Continues (related : Row → Row → Prop) (rows rows' : List Row) : Prop :=
  ∀ (place : Nat) (row : Row), rows[place]? = some row →
    ∃ row', rows'[place]? = some row' ∧ related row row'

/-- A row waits for the end of a lease that one of some claims gave it, as the database stores that
instant: cut to whole microseconds, while leases are counted in nanoseconds. -/
def Row.PutOffBy (lease? : Option Nat) (records : List Record) (row : Row) : Prop :=
  ∃ lease record, lease? = some lease ∧ record ∈ records ∧ record.Claims row.id ∧
    row.nextRetryAt = some (record.now.add lease).toMicros

/-- What the history of a storage tells of a row. -/
structure Row.Told (lease? : Option Nat) (history : List Record) (row : Row) : Prop where
  /-- No attempt was recorded for a pending row, which waits for nothing but the end of a lease. -/
  pending : row.status = .pending →
    row.retryCount = 0 ∧ row.processedAt = none ∧ row.errorMessage = none ∧
      (row.nextRetryAt = none ∨ row.PutOffBy lease? history)
  /-- A failed row tells of the last failure that was recorded for it, and waits fifteen seconds for
  each of its first ten failures, or for the end of a lease after the last one. -/
  failed : row.status = .failed →
    1 ≤ row.retryCount ∧ row.processedAt = none ∧
      ∃ before failure later reason, history = before ++ failure :: later ∧
        failure.Fails row.id reason ∧ (∀ record ∈ later, ∀ other, ¬ record.Fails row.id other) ∧
        row.errorMessage = some (String.ofList (reason.toList.take 500)) ∧
        (row.nextRetryAt = some (failure.now.addSeconds (15 * min row.retryCount 10)) ∨
          row.PutOffBy lease? later)
  /-- A sent row tells of the first acceptance that was recorded for it. -/
  sent : row.status = .sent →
    row.nextRetryAt = none ∧ row.errorMessage = none ∧
      ∃ before acceptance later, history = before ++ acceptance :: later ∧
        acceptance.Sends row.id ∧ (∀ record ∈ before, ¬ record.Sends row.id) ∧
        row.processedAt = some acceptance.now ∧ row.updatedAt = acceptance.now
  counted : 0 ≤ row.retryCount ∧ row.retryCount ≤ maxRetryCount

/-- A script whose accepted drafts are pending and have identifiers of their own, at instants that
the storage keeps. -/
structure Regular (storage : Storage) (script : List Entry) : Prop where
  pending : ∀ entry ∈ script, ∀ draft ∈ entry.operation.accepted, draft.status = .pending
  ids : ((script.flatMap (·.operation.accepted)).map (·.id)).Nodup
  clock : ∀ entry ∈ script, storage.KeepsInstant entry.now

namespace Row

variable {lease? : Option Nat} {history : List Record} {record : Record} {row row' : Row}

theorem Descends.refl (row : Row) : row.Descends row := ⟨rfl, rfl, Int.le_refl _, fun _ => rfl⟩

theorem Descends.trans {a b c : Row} (hab : a.Descends b) (hbc : b.Descends c) : a.Descends c where
  origin := hbc.origin.trans hab.origin
  createdAt := hbc.createdAt.trans hab.createdAt
  retryCount := Int.le_trans hab.retryCount hbc.retryCount
  final hs := by
    obtain rfl := hab.final hs
    exact hbc.final hs

theorem Told.unprocessed (ht : row.Told lease? history) (hs : row.status ≠ .sent) :
    row.processedAt = none := by
  cases h : row.status with
  | pending => exact (ht.pending h).2.1
  | failed => exact (ht.failed h).2.1
  | sent => exact absurd h hs

/-- A row that an operation moves follows the row that it was. -/
theorem Moves.follows (hm : row.Moves lease? record row')
    (hcount : row.retryCount ≤ maxRetryCount) :
    row.Follows (lease?.isSome ∧ ∃ limit, record.operation = .claim limit) row' := by
  have hmoved (hs : row.status ≠ .sent) : row.status = .pending ∨ row.status = .failed := by
    cases h : row.status with
    | pending => exact .inl rfl
    | failed => exact .inr rfl
    | sent => exact absurd h hs
  cases hm with
  | sent hs _ =>
    refine ⟨⟨origin_markSent row _, ?_, Int.le_of_eq (retryCount_markSent row _).symm,
      (absurd · hs)⟩, ?_⟩
    · simp [markSent, hs]
    · rw [markSent_status]
      rcases hmoved hs with h | h <;> simp [h, transitions]
  | failed reason hs _ =>
    refine ⟨⟨origin_markFailed row _ _, ?_, ?_, (absurd · hs)⟩, ?_⟩
    · simp [markFailed, hs]
    · rw [retryCount_markFailed, if_neg hs, nextRetryCount]
      omega
    · have hf : (row.markFailed record.now reason).status = .failed := by simp [markFailed, hs]
      rw [hf]
      rcases hmoved hs with h | h <;> simp [h, transitions]
  | leased lease hl hs hc =>
    obtain ⟨limit, -, hop, -⟩ := hc
    exact ⟨⟨rfl, rfl, Int.le_refl _, (absurd · hs)⟩, .inr (.inr ⟨⟨by simp [hl], limit, hop⟩, rfl⟩)⟩
  | kept _ => exact ⟨.refl row, .inl rfl⟩

theorem PutOffBy.mono {records records' : List Record} (h : row.PutOffBy lease? records)
    (hsub : ∀ record ∈ records, record ∈ records') : row.PutOffBy lease? records' := by
  obtain ⟨lease, record, hl, hmem, hrest⟩ := h
  exact ⟨lease, record, hl, hsub record hmem, hrest⟩

/-- A row that records its first acceptance is told of by it. -/
private theorem told_markSent (ht : row.Told lease? history) (hs : row.status ≠ .sent)
    (hr : record.Sends row.id) (hunsent : ∀ earlier ∈ history, ¬ earlier.Sends row.id) :
    (row.markSent record.now).Told lease? (history ++ [record]) := by
  have hsent : row.markSent record.now = { row with
      status := .sent, processedAt := some record.now, errorMessage := none, nextRetryAt := none,
      updatedAt := record.now } := if_neg hs
  rw [hsent]
  exact {
    pending := fun h => nomatch h
    failed := fun h => nomatch h
    sent := fun _ => ⟨rfl, rfl, history, record, [], rfl, hr, hunsent, rfl, rfl⟩
    counted := ht.counted }

/-- A row that records a failure is told of by it. -/
private theorem told_markFailed {reason : String} (ht : row.Told lease? history)
    (hs : row.status ≠ .sent) (hr : record.Fails row.id reason) :
    (row.markFailed record.now reason).Told lease? (history ++ [record]) := by
  have hcount := ht.counted
  have hnext : 1 ≤ nextRetryCount row.retryCount ∧
      nextRetryCount row.retryCount ≤ maxRetryCount := by
    unfold nextRetryCount maxRetryCount
    omega
  have hfailed : row.markFailed record.now reason = { row with
      status := .failed, retryCount := nextRetryCount row.retryCount,
      errorMessage := some (truncateError reason),
      nextRetryAt := some (record.now.addSeconds (backoffSeconds (nextRetryCount row.retryCount))),
      updatedAt := record.now } := if_neg hs
  rw [hfailed]
  constructor
  case pending => exact fun h => nomatch h
  case sent => exact fun h => nomatch h
  case counted => exact ⟨Int.le_trans (by decide) hnext.1, hnext.2⟩
  case failed =>
    intro _
    have hbackoff : backoffSeconds (nextRetryCount row.retryCount) =
        15 * min (nextRetryCount row.retryCount) 10 := by
      unfold backoffSeconds
      omega
    refine ⟨hnext.1, ht.unprocessed hs, history, record, [], reason, rfl, hr, ?_, rfl, ?_⟩
    · exact fun _ hm => nomatch hm
    · exact .inl (congrArg (fun seconds => some (record.now.addSeconds seconds)) hbackoff)

/-- A claim records no attempt. -/
private theorem not_fails_of_claims {id other : Uuid} (h : record.Claims id) (reason : String) :
    ¬ record.Fails other reason := by
  obtain ⟨limit, _, hop, -⟩ := h
  exact fun hf => nomatch hop.symm.trans hf.1

/-- A row that is leased waits for the end of its lease. -/
private theorem told_putOff {lease : Nat} (ht : row.Told lease? history) (hl : lease? = some lease)
    (hs : row.status ≠ .sent) (hr : record.Claims row.id) :
    (row.putOff record.now lease).Told lease? (history ++ [record]) where
  pending h := by
    obtain ⟨hcount, hprocessed, herror, -⟩ := ht.pending h
    exact ⟨hcount, hprocessed, herror, .inr ⟨lease, record, hl, by simp, hr, rfl⟩⟩
  failed h := by
    obtain ⟨hcount, hprocessed, before, failure, later, reason, rfl, hfails, hlast, herror, -⟩ :=
      ht.failed h
    refine ⟨hcount, hprocessed, before, failure, later ++ [record], reason, by simp, hfails, ?_,
      herror, .inr ⟨lease, record, hl, by simp, hr, rfl⟩⟩
    have hnow : ∀ reason, ¬ record.Fails row.id reason := not_fails_of_claims hr
    exact List.forall_mem_append.mpr ⟨hlast, List.forall_mem_singleton.mpr hnow⟩
  sent h := absurd h hs
  counted := ht.counted

/-- A row that stays as it is is told of by a longer history. -/
private theorem told_kept (ht : row.Told lease? history)
    (hf : row.status ≠ .sent → ∀ reason, ¬ record.Fails row.id reason) :
    row.Told lease? (history ++ [record]) where
  pending h := by
    obtain ⟨hcount, hprocessed, herror, hdue⟩ := ht.pending h
    exact ⟨hcount, hprocessed, herror,
      hdue.imp_right (·.mono fun _ hm => List.mem_append_left _ hm)⟩
  failed h := by
    obtain ⟨hcount, hprocessed, before, failure, later, reason, rfl, hfails, hlast, herror, hdue⟩ :=
      ht.failed h
    refine ⟨hcount, hprocessed, before, failure, later ++ [record], reason, by simp, hfails, ?_,
      herror, hdue.imp_right (·.mono fun _ hm => List.mem_append_left _ hm)⟩
    have hnow : ∀ reason, ¬ record.Fails row.id reason := hf (by simp [h])
    exact List.forall_mem_append.mpr ⟨hlast, List.forall_mem_singleton.mpr hnow⟩
  sent h := by
    obtain ⟨hdue, herror, before, acceptance, later, rfl, hrest⟩ := ht.sent h
    exact ⟨hdue, herror, before, acceptance, later ++ [record], by simp, hrest⟩
  counted := ht.counted

/-- A row that an operation moves is told of by the history with that operation. -/
theorem Told.concat (ht : row.Told lease? history) (hm : row.Moves lease? record row')
    (hunsent : row.status ≠ .sent → ∀ earlier ∈ history, ¬ earlier.Sends row.id) :
    row'.Told lease? (history ++ [record]) := by
  cases hm with
  | sent hs hr => exact told_markSent ht hs hr (hunsent hs)
  | failed reason hs hr => exact told_markFailed ht hs hr
  | leased lease hl hs hr => exact told_putOff ht hl hs hr
  | kept hk => exact told_kept ht fun hs => (hk hs).2

/-- The row of a pending draft is told of by any history: no attempt was made yet. -/
theorem told_of_becomesRow {draft : Draft} (h : draft.BecomesRow row)
    (hp : draft.status = .pending) : row.Told lease? history := by
  obtain ⟨stored, now, rfl, -, hstatus⟩ := h
  have hpending : (Row.ofDraft stored now).status = .pending := hstatus.trans hp
  exact {
    pending := fun _ => ⟨rfl, rfl, rfl, .inl rfl⟩
    failed := fun h => by simp [hpending] at h
    sent := fun h => by simp [hpending] at h
    counted := by
      show (0 : Int) ≤ 0 ∧ (0 : Int) ≤ maxRetryCount
      decide }

/-- Moving keeps the identifier. -/
theorem Moves.id_eq (hm : row.Moves lease? record row') : row'.id = row.id := by
  cases hm with
  | sent _ _ => exact markSent_id _ row
  | failed reason _ _ => exact markFailed_id _ reason row
  | leased _ _ _ _ => rfl
  | kept _ => rfl

/-- A row that an operation leaves unsent was not sent before, and no acceptance is recorded for it
now. -/
theorem Moves.unsent (hm : row.Moves lease? record row') (hs : row'.status ≠ .sent) :
    row.status ≠ .sent ∧ ¬ record.Sends row.id := by
  cases hm with
  | sent _ _ => exact absurd (markSent_status _ row) hs
  | failed _ h hf => exact ⟨h, fun hr => nomatch hf.1.symm.trans hr.1⟩
  | leased _ _ h hc =>
    obtain ⟨limit, _, hop, -⟩ := hc
    exact ⟨h, fun hr => nomatch hop.symm.trans hr.1⟩
  | kept hk => exact ⟨hs, (hk hs).1⟩

end Row

/-- What a record changes in rows keeps their identifiers. -/
theorem ids_change (lease? : Option Nat) (record : Record) (rows : List Row) :
    (rows.map (record.change lease?)).map (·.id) = rows.map (·.id) := by
  rw [List.map_map]
  exact List.map_congr_left fun row _ => (record.moves_change lease? row).id_eq

/-- The rows of a transaction have identifiers of its accepted drafts, in their order. -/
theorem ids_becomesRow {drafts : List Draft} {added : List Row}
    (h : added = [] ∨ List.Forall₂ Draft.BecomesRow drafts added) :
    (added.map (·.id)).Sublist (drafts.map (·.id)) := by
  rcases h with rfl | h
  · exact List.nil_sublist _
  · induction h with
    | nil => exact .slnil
    | cons hrow _ ih =>
      obtain ⟨stored, now, rfl, hid, -⟩ := hrow
      rw [List.map_cons, List.map_cons, ← hid]
      exact ih.cons_cons stored.id

/-- A row of a transaction is that of one of its accepted drafts. -/
theorem exists_becomesRow {drafts : List Draft} {added : List Row}
    (h : added = [] ∨ List.Forall₂ Draft.BecomesRow drafts added) {row : Row} (hm : row ∈ added) :
    ∃ draft ∈ drafts, draft.BecomesRow row := by
  rcases h with rfl | h
  · cases hm
  · exact exists_mem_of_forall₂ h hm

/-- The beginning of a regular script is regular. -/
theorem Regular.of_append {storage : Storage} {script rest : List Entry}
    (h : Regular storage (script ++ rest)) : Regular storage script where
  pending entry hm := h.pending entry (List.mem_append_left _ hm)
  ids := by
    have hids := h.ids
    rw [List.flatMap_append, List.map_append] at hids
    exact (List.nodup_append.mp hids).1
  clock entry hm := h.clock entry (List.mem_append_left _ hm)

end Outbox

namespace Storage

variable {storage : Storage}

/-- What holds after a script on a storage that had no rows. -/
structure Kept (storage : Storage) (script : List Entry) : Prop where
  frame : storage.after script = storage.withRows (storage.after script).rows
  /-- The rows are those of accepted drafts, in their order. -/
  ids : ((storage.after script).rows.map (·.id)).Sublist
    ((script.flatMap (·.operation.accepted)).map (·.id))
  told : ∀ row ∈ (storage.after script).rows, row.Told storage.lease? (storage.history script)
  /-- No acceptance was recorded for an unsent row. -/
  unsent : ∀ row ∈ (storage.after script).rows, row.status ≠ .sent →
    ∀ record ∈ storage.history script, ¬ record.Sends row.id
  /-- An acceptance was recorded only for an identifier of which there is a row. -/
  known : ∀ record ∈ storage.history script, ∀ id, record.Sends id →
    id ∈ (storage.after script).rows.map (·.id)

section Concat

variable {script : List Entry} {entry : Entry}

/-- The rows after a regular script have identifiers of their own, and only sent ones were
processed. -/
theorem Kept.tidy (hk : Kept storage script) (hr : Regular storage script) :
    Tidy (storage.after script).rows where
  ids := hr.ids.sublist hk.ids
  unprocessed row hm hs := (hk.told row hm).unprocessed hs

/-- A script does not change for how long claims lease rows. -/
theorem Kept.lease?_after (hk : Kept storage script) :
    (storage.after script).lease? = storage.lease? := by
  rw [hk.frame, lease?_withRows]

/-- After a script, the storage keeps the instant of the next operation. -/
theorem Kept.keepsInstant (hk : Kept storage script) (hr : Regular storage (script ++ [entry])) :
    (storage.after script).KeepsInstant entry.now := by
  rw [hk.frame, keepsInstant_withRows]
  exact hr.clock entry (by simp)

/-- One operation more changes the rows as its record tells, and appends new ones. -/
theorem Kept.appends (hk : Kept storage script) (hr : Regular storage (script ++ [entry])) :
    ∃ added, (storage.after script).Appends entry added ∧
      (storage.after (script ++ [entry])).rows = (storage.after script).rows.map
        (((storage.after script).record entry).change storage.lease?) ++ added ∧
      (added = [] ∨ List.Forall₂ Draft.BecomesRow entry.operation.accepted added) := by
  obtain ⟨added, happ, hadded⟩ := rows_perform (hk.tidy hr.of_append) (hk.keepsInstant hr)
  refine ⟨added, happ, ?_, hadded⟩
  rw [after_concat, happ.rows, hk.lease?_after]

/-- The identifiers of new rows are not among those of the rows before. -/
theorem Kept.fresh {added : List Row} (hk : Kept storage script)
    (hr : Regular storage (script ++ [entry]))
    (hadded : added = [] ∨ List.Forall₂ Draft.BecomesRow entry.operation.accepted added) :
    ∀ row ∈ added, row.id ∉ (storage.after script).rows.map (·.id) := by
  have hids := hr.ids
  rw [List.flatMap_append, List.map_append, List.flatMap_singleton] at hids
  intro row hm hbefore
  have hnew := (ids_becomesRow hadded).subset (List.mem_map_of_mem hm)
  exact (List.nodup_append.mp hids).2.2 _ (hk.ids.subset hbefore) _ hnew rfl

/-- One operation more keeps what holds. -/
theorem Kept.concat (hk : Kept storage script) (hr : Regular storage (script ++ [entry])) :
    Kept storage (script ++ [entry]) := by
  obtain ⟨added, happ, hrows, hadded⟩ := hk.appends hr
  have hfresh := hk.fresh hr hadded
  have hrecorded {id : Uuid} (h : ((storage.after script).record entry).Sends id) :
      id ∈ (storage.after script).rows.map (·.id) :=
    mem_of_recorded (hk.tidy hr.of_append) (hk.keepsInstant hr) (.inl h)
  have hmoves (row : Row) : row.Moves storage.lease? ((storage.after script).record entry)
      (((storage.after script).record entry).change storage.lease? row) :=
    Record.moves_change _ _ row
  generalize hrecord : (storage.after script).record entry = record at *
  constructor
  case frame =>
    have hframe := congrArg (·.withRows ((storage.after script).perform entry).2.rows) hk.frame
    rw [after_concat]
    exact happ.frame.trans (hframe.trans (withRows_withRows _ _))
  case ids =>
    rw [hrows, List.map_append, ids_change, List.flatMap_append, List.map_append,
      List.flatMap_singleton]
    exact hk.ids.append (ids_becomesRow hadded)
  case told =>
    rw [hrows, history_concat, hrecord]
    intro row hm
    rcases List.mem_append.mp hm with hm | hm
    · obtain ⟨before, hb, rfl⟩ := List.mem_map.mp hm
      exact (hk.told before hb).concat (hmoves before) (hk.unsent before hb)
    · obtain ⟨draft, hd, hbecomes⟩ := exists_becomesRow hadded hm
      exact Row.told_of_becomesRow hbecomes (hr.pending entry (by simp) draft hd)
  case unsent =>
    rw [hrows, history_concat, hrecord]
    intro row hm hs earlier he
    rcases List.mem_append.mp hm with hm | hm
    · obtain ⟨before, hb, rfl⟩ := List.mem_map.mp hm
      obtain ⟨hbefore, hnow⟩ := (hmoves before).unsent hs
      rw [(hmoves before).id_eq]
      rcases List.mem_append.mp he with he | he
      · exact hk.unsent before hb hbefore earlier he
      · obtain rfl := List.mem_singleton.mp he
        exact hnow
    · intro hsends
      refine hfresh row hm ?_
      rcases List.mem_append.mp he with he | he
      · exact hk.known earlier he row.id hsends
      · obtain rfl := List.mem_singleton.mp he
        exact hrecorded hsends
  case known =>
    rw [hrows, history_concat, hrecord, List.map_append, ids_change]
    intro earlier he id hsends
    refine List.mem_append_left _ ?_
    rcases List.mem_append.mp he with he | he
    · exact hk.known earlier he id hsends
    · obtain rfl := List.mem_singleton.mp he
      exact hrecorded hsends

end Concat

/-- What holds after every regular script on a storage that had no rows. -/
theorem kept_of_regular (hempty : storage.rows = []) (script : List Entry)
    (hr : Regular storage script) : Kept storage script := by
  induction script using List.reverseRecOn with
  | nil =>
    exact {
      frame := by simp
      ids := by simp [hempty]
      told := by simp [hempty]
      unsent := by simp [hempty]
      known := by simp }
  | append_singleton script entry ih => exact (ih hr.of_append).concat hr

/-- One operation lets every row follow the row that it was. -/
private theorem continues_concat {script : List Entry} {entry : Entry} (hk : Kept storage script)
    (hr : Regular storage (script ++ [entry])) :
    Continues (Row.Follows (storage.lease?.isSome ∧ ∃ limit, entry.operation = .claim limit))
      (storage.after script).rows (storage.after (script ++ [entry])).rows := by
  obtain ⟨added, -, hrows, -⟩ := hk.appends hr
  intro place row hrow
  obtain ⟨hlt, -⟩ := List.getElem?_eq_some_iff.mp hrow
  refine ⟨((storage.after script).record entry).change storage.lease? row, ?_, ?_⟩
  · rw [hrows, List.getElem?_append_left (by rwa [List.length_map]), List.getElem?_map, hrow]
    rfl
  · exact (Record.moves_change storage.lease? ((storage.after script).record entry) row).follows
      (hk.told row (List.mem_of_getElem? hrow)).counted.2

/-- A run lets every row descend from the row that it was. -/
private theorem continues_append (hempty : storage.rows = []) (script later : List Entry)
    (hr : Regular storage (script ++ later)) :
    Continues Row.Descends (storage.after script).rows (storage.after (script ++ later)).rows := by
  induction later using List.reverseRecOn with
  | nil =>
    rw [List.append_nil]
    exact fun place row hrow => ⟨row, hrow, .refl row⟩
  | append_singleton later entry ih =>
    rw [← List.append_assoc] at hr ⊢
    intro place row hrow
    obtain ⟨next, hnext, hdescends⟩ := ih hr.of_append place row hrow
    obtain ⟨last, hlast, hfollows⟩ :=
      continues_concat (kept_of_regular hempty _ hr.of_append) hr place next hnext
    exact ⟨last, hlast, hdescends.trans hfollows.toDescends⟩

/-- In every run that begins without rows, each operation lets every row follow the row that it was,
each stretch of the run lets it descend from the row that it was, and the history so far tells of
every row. -/
theorem rows_lifecycle {script : List Entry} (hempty : storage.rows = [])
    (hr : Regular storage script) :
    (∀ before entry rest, script = before ++ entry :: rest →
      Continues (Row.Follows (storage.lease?.isSome ∧ ∃ limit, entry.operation = .claim limit))
        (storage.after before).rows (storage.after (before ++ [entry])).rows) ∧
    (∀ before later rest, script = before ++ later ++ rest →
      Continues Row.Descends
        (storage.after before).rows (storage.after (before ++ later)).rows) ∧
    ∀ done rest, script = done ++ rest → ∀ row ∈ (storage.after done).rows,
      row.Told storage.lease? (storage.history done) := by
  refine ⟨?_, ?_, ?_⟩
  · intro before entry rest h
    rw [h, List.append_cons] at hr
    exact continues_concat (kept_of_regular hempty _ hr.of_append.of_append) hr.of_append
  · intro before later rest h
    rw [h] at hr
    exact continues_append hempty before later hr.of_append
  · intro done rest h
    rw [h] at hr
    exact (kept_of_regular hempty done hr.of_append).told

/-- A database whose claims lease rows for half a minute and one microsecond and a half. -/
def leasing : Storage := .database .empty (.skipLocked (30 * nanosPerSecond + 1500)) none

/-- An event is claimed and fails, is claimed again and sent. -/
def secondAttempt : List Entry :=
  let id := Uuid.reserved 0
  let draft : Draft := ⟨id, none, "employee", "7", "employee.created", "hr", [123, 125], .pending⟩
  [⟨.transact [draft] true, ⟨0, 0⟩, ⟨0, 0⟩⟩, ⟨.claim 10, ⟨1, 0⟩, ⟨1, 0⟩⟩,
    ⟨.markFailed id "broker transport failure", ⟨2, 0⟩, ⟨2, 0⟩⟩, ⟨.claim 10, ⟨20, 0⟩, ⟨20, 0⟩⟩,
    ⟨.markSent id, ⟨21, 5000⟩, ⟨21, 5000⟩⟩]

/-- The event ends as sent, and the history tells of it. -/
theorem secondAttempt_lifecycle : Regular leasing secondAttempt ∧
    (leasing.after secondAttempt).rows.map (·.status) = [.sent] ∧
    ∀ row ∈ (leasing.after secondAttempt).rows,
      row.Told leasing.lease? (leasing.history secondAttempt) := by
  have hr : Regular leasing secondAttempt := by
    constructor
    · decide
    · decide
    · intro entry hm
      show Database.Exact entry.now
      revert entry
      decide
  exact ⟨hr, by decide +kernel,
    (rows_lifecycle rfl hr).2.2 secondAttempt [] (List.append_nil _).symm⟩

end Storage
end HrPipeline
