import HrPipeline.Proofs.Calendar.Micros
import HrPipeline.Proofs.Database.Inserts
import HrPipeline.Proofs.Outbox.Updates

/-!
# Records of attempts in memory and in the database

Where rows have identifiers of their own, both storages record an attempt in the same way: if there
is a row with the identifier, it is changed and the others are not, and otherwise the record is
refused. The database reads the row first, writes nothing to a sent one, and cuts every instant that
it writes; for clock readings that it keeps as they are none of this makes a difference. It alone
refuses a reading that it cannot store, and a reason with the character U+0000.
-/

namespace HrPipeline

open HrPipeline.Calendar HrPipeline.Outbox

namespace Outbox

/-- Rows with identifiers of their own, of which only sent ones were processed. -/
structure Tidy (rows : List Row) : Prop where
  ids : (rows.map (·.id)).Nodup
  unprocessed : ∀ row ∈ rows, row.status ≠ .sent → row.processedAt = none

variable {rows : List Row} {id : Uuid} {change : Row → Row}

/-- There is a first row that satisfies a condition if some row does. -/
theorem isSome_updateFirst (condition : Row → Bool) (change : Row → Row) :
    (updateFirst condition change rows).isSome = rows.any condition := by
  induction rows with
  | nil => rfl
  | cons row rows ih =>
    unfold updateFirst
    cases hc : condition row with
    | true => simp [hc]
    | false => simpa [hc] using ih

/-- A change of the first row with an identifier changes the only one. -/
theorem updateFirst_eq (hu : (rows.map (·.id)).Nodup) :
    updateFirst (·.id = id) change rows =
      if rows.any (·.id = id) then
        some (rows.map fun row => if row.id = id then change row else row)
      else none := by
  rw [← isSome_updateFirst _ change]
  cases h : updateFirst (·.id = id) change rows with
  | none => rfl
  | some changed => exact congrArg some (updateFirst_eq_map hu h)

/-- A look-up of the identifier of a row finds the row. -/
theorem find?_of_mem (hu : (rows.map (·.id)).Nodup) {row : Row} (hm : row ∈ rows) :
    rows.find? (·.id = row.id) = some row := by
  cases hf : rows.find? (·.id = row.id) with
  | none => exact absurd hf (by simpa using ⟨row, hm, rfl⟩)
  | some other =>
    have hid : other.id = row.id := by simpa using List.find?_some hf
    exact congrArg some (List.inj_on_of_nodup_map hu (List.mem_of_find?_eq_some hf) hm hid)

/-- A change that leaves the row with an identifier as it is leaves all rows as they are. -/
theorem map_eq_self_of_find (hu : (rows.map (·.id)).Nodup) {row : Row}
    (hf : rows.find? (·.id = id) = some row) (hc : change row = row) :
    (rows.map fun row => if row.id = id then change row else row) = rows := by
  have hid : row.id = id := by simpa using List.find?_some hf
  have hone : ∀ other ∈ rows, (if other.id = id then change other else other) = other := by
    intro other hm
    split
    · next ho =>
      rw [List.inj_on_of_nodup_map hu hm (List.mem_of_find?_eq_some hf) (ho.trans hid.symm), hc]
    · rfl
  rw [List.map_congr_left hone, List.map_id']

namespace Store

variable {store : Store}

/-- An update changes the row with the identifier, if there is one. -/
theorem update_eq (hu : (store.rows.map (·.id)).Nodup) :
    store.update id change =
      if store.rows.any (·.id = id) then
        .ok { store with rows := store.rows.map fun row => if row.id = id then change row else row }
      else .error (.notFound id) := by
  unfold update
  rw [updateFirst_eq hu]
  by_cases hany : store.rows.any (·.id = id) = true
  · rw [if_pos hany, if_pos hany]
  · rw [if_neg hany, if_neg hany]

end Store
end Outbox

namespace Database

/-- An instant that the database stores as it is. -/
structure Exact (t : Instant) : Prop where
  whole : t.IsMicros
  accepted : Accepts t

instance (t : Instant) : Decidable (Exact t) :=
  decidable_of_iff (t.IsMicros ∧ Accepts t) ⟨fun h => ⟨h.1, h.2⟩, fun h => ⟨h.whole, h.accepted⟩⟩

variable {db : Database} {id : Uuid} {change : Row → Row} {now : Instant} {reason : String}

/-- A statement that changes a row writes to the row with the identifier, if there is one. -/
theorem updateRow_eq (hu : (db.outbox.map (·.id)).Nodup) :
    db.updateRow id change =
      if db.outbox.any (·.id = id) then
        .ok { db with
          outbox := db.outbox.map fun row => if row.id = id then change row else row }
      else .error (.notFound id) := by
  unfold updateRow
  rw [updateFirst_eq hu]
  by_cases hany : db.outbox.any (·.id = id) = true
  · rw [if_pos hany, if_pos hany]
  · rw [if_neg hany, if_neg hany]

/-- A change to the rows of some identifiers that keeps them keeps those of all rows. -/
theorem ids_changeRows {ids : List Uuid} (hid : ∀ row, (change row).id = row.id)
    (rows : List Row) : (changeRows ids change rows).map (·.id) = rows.map (·.id) := by
  unfold changeRows
  rw [List.map_map]
  refine List.map_congr_left fun row _ => ?_
  show (if row.id ∈ ids then change row else row).id = row.id
  split
  · exact hid row
  · rfl

/-- What a record of an attempt that goes through does to the tables: nothing if the row is sent
already, and otherwise the change to the row, cut to what the database stores. -/
inductive Marked (id : Uuid) (now : Instant) (change : Row → Row) (db : Database) :
    Database → Prop where
  | kept (row : Row) (found : db.outboxRow? id = some row) (sent : row.status = .sent) :
    Marked id now change db db
  | changed (row : Row) (db' : Database) (found : db.outboxRow? id = some row)
      (unsent : row.status ≠ .sent) (accepted : Accepts now)
      (written : db.updateRow id (fun row => storedRow (change row)) = .ok db') :
    Marked id now change db db'

theorem markSent_marked {db' : Database} (h : db.markSent id now = .ok db') :
    db.Marked id now (·.markSent now) db' := by
  unfold markSent at h
  split at h
  · cases h
  · next row hr =>
    split at h
    · next hs =>
      obtain rfl := Except.ok.inj h
      exact .kept row hr hs
    · next hs =>
      split at h
      · next ha => exact .changed row db' hr hs ha h
      · cases h

theorem markFailed_marked {db' : Database} (h : db.markFailed id reason now = .ok db') :
    db.Marked id now (·.markFailed now reason) db' := by
  unfold markFailed at h
  split at h
  · cases h
  · next row hr =>
    split at h
    · next hs =>
      obtain rfl := Except.ok.inj h
      exact .kept row hr hs
    · next hs =>
      simp only [bind, Except.bind] at h
      split at h
      · cases h
      · split at h
        · next ha => exact .changed row db' hr hs ha h
        · cases h

section Unsent

variable {row : Row}

/-- The tables with a change to the row with an identifier. -/
def changed (id : Uuid) (change : Row → Row) (db : Database) : Database :=
  { db with outbox := db.outbox.map fun row => if row.id = id then change row else row }

/-- The look-up of a row that is in the outbox. -/
theorem outboxRow?_of_mem (hu : (db.outbox.map (·.id)).Nodup) (hm : row ∈ db.outbox) :
    db.outboxRow? row.id = some row := find?_of_mem hu hm

private theorem updateRow_of_mem {change : Row → Row} (hu : (db.outbox.map (·.id)).Nodup)
    (hm : row ∈ db.outbox) : db.updateRow row.id change = .ok (db.changed row.id change) := by
  rw [updateRow_eq hu, if_pos (List.any_eq_true.mpr ⟨row, hm, decide_eq_true rfl⟩)]
  rfl

/-- The acceptance of an unsent row is recorded, cut to what the database stores, unless the
database refuses the reading of the clock. -/
theorem markSent_of_unsent (hu : (db.outbox.map (·.id)).Nodup) (hm : row ∈ db.outbox)
    (hs : row.status ≠ .sent) (now : Instant) :
    db.markSent row.id now =
      if Accepts now then .ok (db.changed row.id fun row => storedRow (row.markSent now))
      else .error (.database outOfRange) := by
  unfold markSent
  rw [outboxRow?_of_mem hu hm]
  simp only [if_neg hs, updateRow_of_mem hu hm]

/-- So is the failure of an unsent row, if the database takes the reason as well. -/
theorem markFailed_of_unsent (hu : (db.outbox.map (·.id)).Nodup) (hm : row ∈ db.outbox)
    (hs : row.status ≠ .sent) (reason : String) (now : Instant) :
    db.markFailed row.id reason now =
      ((checkTexts [truncateError reason]).mapError .database).bind fun _ =>
        if Accepts now then
          .ok (db.changed row.id fun row => storedRow (row.markFailed now reason))
        else .error (.database outOfRange) := by
  unfold markFailed
  rw [outboxRow?_of_mem hu hm]
  simp only [if_neg hs, updateRow_of_mem hu hm]
  rfl

end Unsent

/-- A record of an acceptance is stored as it is. -/
theorem storedRow_markSent {row : Row} (hn : now.IsMicros) (hs : row.status ≠ .sent) :
    storedRow (row.markSent now) = row.markSent now := by
  simp [storedRow, Row.markSent, hs, hn.toMicros_eq]

/-- A record of a failure is stored as it is. -/
theorem storedRow_markFailed {row : Row} (hn : now.IsMicros) (hs : row.status ≠ .sent)
    (hp : row.processedAt = none) :
    storedRow (row.markFailed now reason) = row.markFailed now reason := by
  simp [storedRow, Row.markFailed, hs, hp, hn.toMicros_eq, (hn.addSeconds _).toMicros_eq]

/-- Reading the row first, and writing nothing if it is sent, comes to the same as writing. -/
private theorem change_unless_sent (ht : Tidy db.outbox) {stored : Row → Row}
    (hsent : ∀ row, row.status = .sent → change row = row)
    (hstored : ∀ row, row.status ≠ .sent → row.processedAt = none → stored row = change row) :
    (match db.outboxRow? id with
      | none => .error (.notFound id)
      | some row => if row.status = .sent then .ok db else db.updateRow id stored) =
      if db.outbox.any (·.id = id) then
        .ok { db with
          outbox := db.outbox.map fun row => if row.id = id then change row else row }
      else (.error (.notFound id) : Except OutboxError Database) := by
  unfold outboxRow?
  cases hf : db.outbox.find? (·.id = id) with
  | none =>
    have hnone : ¬ db.outbox.any (·.id = id) = true := by
      simpa using hf
    rw [if_neg hnone]
  | some row =>
    have hmem := List.mem_of_find?_eq_some hf
    have hid : row.id = id := by simpa using List.find?_some hf
    have hany : db.outbox.any (·.id = id) = true :=
      List.any_eq_true.mpr ⟨row, hmem, decide_eq_true hid⟩
    rw [if_pos hany]
    show (if row.status = .sent then _ else _) = _
    split
    · next hs => rw [map_eq_self_of_find ht.ids hf (hsent row hs)]
    · next hs =>
      rw [updateRow_eq ht.ids, if_pos hany]
      have hone : ∀ other ∈ db.outbox, (if other.id = id then stored other else other) =
          if other.id = id then change other else other := by
        intro other hm
        split
        · next ho =>
          rw [List.inj_on_of_nodup_map ht.ids hm hmem (ho.trans hid.symm)]
          exact hstored row hs (ht.unprocessed row hmem hs)
        · rfl
      rw [List.map_congr_left hone]

/-- Recording an acceptance changes the row with the identifier, if there is one. -/
theorem markSent_eq (ht : Tidy db.outbox) (hn : Exact now) :
    db.markSent id now =
      if db.outbox.any (·.id = id) then
        .ok { db with
          outbox := db.outbox.map fun row => if row.id = id then row.markSent now else row }
      else .error (.notFound id) := by
  simp only [markSent, if_pos hn.accepted]
  exact change_unless_sent ht (fun row => Row.markSent_of_sent now row)
    fun _ hs _ => storedRow_markSent hn.whole hs

/-- Recording a failure for a reason that the database takes changes the row with the identifier, if
there is one. -/
private theorem markFailed_of_texts (ht : Tidy db.outbox) (hn : Exact now)
    (htexts : checkTexts [truncateError reason] = .ok ()) :
    db.markFailed id reason now =
      if db.outbox.any (·.id = id) then
        .ok { db with
          outbox := db.outbox.map fun row =>
            if row.id = id then row.markFailed now reason else row }
      else .error (.notFound id) := by
  unfold markFailed
  simp only [htexts, if_pos hn.accepted]
  exact change_unless_sent ht (fun row => Row.markFailed_of_sent now reason row)
    fun _ hs hp => storedRow_markFailed hn.whole hs hp

/-- Recording a failure for a reason without U+0000 changes the row with the identifier, if there is
one. -/
theorem markFailed_eq (ht : Tidy db.outbox) (hn : Exact now) (hr : '\x00' ∉ reason.toList) :
    db.markFailed id reason now =
      if db.outbox.any (·.id = id) then
        .ok { db with
          outbox := db.outbox.map fun row =>
            if row.id = id then row.markFailed now reason else row }
      else .error (.notFound id) := by
  refine markFailed_of_texts ht hn (checkTexts_eq_ok fun s hs => ?_)
  rw [List.mem_singleton.mp hs, truncateError, String.toList_ofList]
  exact fun h => hr (List.mem_of_mem_take h)

/-- A failure that is recorded, for whatever reason, has changed the row with the identifier. -/
theorem markFailed_ok (ht : Tidy db.outbox) (hn : Exact now) {db' : Database}
    (h : db.markFailed id reason now = .ok db') :
    db.outbox.any (·.id = id) = true ∧
      db' = { db with
        outbox := db.outbox.map fun row =>
          if row.id = id then row.markFailed now reason else row } := by
  cases htexts : checkTexts [truncateError reason] with
  | ok _ =>
    rw [markFailed_of_texts ht hn htexts] at h
    split at h
    · next hany => exact ⟨hany, (Except.ok.inj h).symm⟩
    · cases h
  | error error =>
    -- the database refuses to write the reason, so that the row must be sent
    unfold markFailed outboxRow? at h
    cases hf : db.outbox.find? (·.id = id) with
    | none => simp [hf] at h
    | some row =>
      by_cases hs : row.status = .sent
      · simp only [hf, if_pos hs] at h
        have hid : row.id = id := by simpa using List.find?_some hf
        obtain rfl := Except.ok.inj h
        refine ⟨List.any_eq_true.mpr ⟨row, List.mem_of_find?_eq_some hf, decide_eq_true hid⟩, ?_⟩
        rw [map_eq_self_of_find ht.ids hf (Row.markFailed_of_sent now reason row hs)]
      · simp only [hf, if_neg hs, htexts] at h
        cases h

end Database
end HrPipeline
