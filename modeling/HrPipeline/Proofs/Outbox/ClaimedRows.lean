import HrPipeline.Proofs.Database.Responses

/-!
# Claimed rows beside stored rows

A claim is answered with rows as it has read them. Where it only reads, a look-up right after it
finds each row just so. A claim by a lease changes the rows that it is answered with: it stores the
end of the lease and the time of the change. It tells the end of the lease as well, but it still
tells the time of the change before. `Row.Handed` says what of a row was stored before the claim,
what is stored after it, and when this is the row that the claim was answered with.
-/

namespace HrPipeline

open HrPipeline.Calendar HrPipeline.Outbox

namespace Outbox

/-- A row that a claim was answered with, beside what a look-up of its identifier found before the
claim and what it finds right after. -/
structure Row.Handed (lease? : Option Nat) (now : Instant) (before after : Option Row) (row : Row) :
    Prop where
  /-- But for the end of the lease, the row was stored as the claim tells it. -/
  told : ∃ stored, before = some stored ∧ row = stored.told lease? now
  /-- But for the time of a lease, it is stored as the claim tells it. -/
  stored : after = some (if lease?.isSome then { row with updatedAt := now } else row)
  /-- So it is stored just so unless it was leased, and changed at another time before. -/
  same : after = some row ↔ lease? = none ∨ row.updatedAt = now

variable {row : Row} {now : Instant}

/-- Where claims only read, a row is the one before and after. -/
theorem Row.handed_of_read (row : Row) (now : Instant) :
    row.Handed none now (some row) (some row) where
  told := ⟨row, rfl, rfl⟩
  stored := rfl
  same := by simp

/-- A row that is leased at a whole microsecond for a number of them gets the end of the lease as
the claim tells it, and the time of the lease. -/
theorem Row.handed_of_leased (hn : now.IsMicros) {lease : Nat} (hwhole : 1000 ∣ lease) (row : Row) :
    (row.told (some lease) now).Handed (some lease) now (some row)
      (some (row.putOff now lease)) := by
  have hstored : row.putOff now lease = { row.told (some lease) now with updatedAt := now } := by
    unfold putOff
    rw [hn.toMicros_eq, (hn.add (Int.natCast_dvd_natCast.mpr hwhole)).toMicros_eq]
    rfl
  rw [hstored]
  refine ⟨⟨row, rfl, rfl⟩, rfl, ?_⟩
  constructor
  · intro h
    exact .inr (congrArg Row.updatedAt (Option.some.inj h)).symm
  · rintro (h | h)
    · cases h
    · exact congrArg some (h ▸ rfl)

end Outbox

namespace Database

variable {db db' : Database} {mode : ClaimMode} {ceiling : Option Int} {limit : Int}
  {now : Instant} {rows : List Row}

/-- A claim at a whole microsecond tells of rows as they are stored before and after it, where
leases are whole microseconds. -/
theorem claim_handed (hu : (db.outbox.map (·.id)).Nodup) (hn : now.IsMicros)
    (hwhole : ∀ lease, mode.lease? = some lease → 1000 ∣ lease)
    (h : db.claim mode ceiling limit now = .ok (rows, db')) :
    ∀ row ∈ rows,
      row.Handed mode.lease? now (db.outboxRow? row.id) (db'.outboxRow? row.id) := by
  obtain ⟨rfl, rfl⟩ := claim_ok h
  intro told hm
  obtain ⟨row, hrow, rfl⟩ := List.mem_map.mp hm
  have hbefore : db.outboxRow? row.id = some row := outboxRow?_of_mem hu (mem_eligible hrow).1
  have hid : row.id ∈ (db.eligible ceiling limit now).map (·.id) := List.mem_map_of_mem hrow
  generalize mode.lease? = lease? at hwhole ⊢
  cases lease? with
  | none =>
    show row.Handed none now (db.outboxRow? row.id) (db.outboxRow? row.id)
    rw [hbefore]
    exact row.handed_of_read now
  | some lease =>
    show (row.told (some lease) now).Handed _ now (db.outboxRow? row.id)
      ((db.afterClaim (some lease) _ now).outboxRow? row.id)
    rw [outboxRow?_afterClaim, hbefore, Option.map_some, if_pos hid]
    exact row.handed_of_leased hn (hwhole lease rfl)

/-- Unless a positive limit meets a reading of the clock that the database refuses, a claim by a
lease that can be represented, or by none, is answered with such rows. -/
theorem respond_handed (hu : (db.outbox.map (·.id)).Nodup) (hn : now.IsMicros)
    (hlease : ∀ lease, mode.lease? = some lease → 1000 ∣ lease ∧ lease ≤ maxLease)
    (ha : 0 < limit → Accepts now) (databaseNow : Instant) :
    ∃ rows db', db.respond mode ceiling ⟨.claim limit, now, databaseNow⟩ =
        (.claimed (.ok rows), db') ∧
      ∀ row ∈ rows,
        row.Handed mode.lease? now (db.outboxRow? row.id) (db'.outboxRow? row.id) := by
  by_cases hl : limit ≤ 0
  · exact ⟨[], db, if_pos hl, by simp⟩
  · have hclaim := db.claim_of_accepts (fun lease h => (hlease lease h).2)
      (ha (Int.not_le.mp hl)) ceiling limit
    refine ⟨_, _, ?_, claim_handed hu hn (fun lease h => (hlease lease h).1) hclaim⟩
    simp only [respond, if_neg hl, hclaim]

/-- Otherwise it is refused. -/
theorem respond_refused (hlease : ∀ lease, mode.lease? = some lease → lease ≤ maxLease)
    (ha : ¬ Accepts now) (hl : 0 < limit) (databaseNow : Instant) :
    db.respond mode ceiling ⟨.claim limit, now, databaseNow⟩ =
      (.claimed (.error (.database outOfRange)), db) := by
  simp only [respond, if_neg (Int.not_le.mpr hl), db.claim_of_refused hlease ha ceiling limit]

end Database

namespace Storage

/-- What a claim is answered with are the rows that a look-up finds right after it. -/
def ReadsBack (storage : Storage) (limit : Int) (now : Instant) : Prop :=
  ∀ rows after notices, storage.claim limit now = .ok (rows, after, notices) →
    ∀ row ∈ rows, after.get? row.id = .ok (some row)

/-- At a reading of the clock in whole microseconds, a claim is answered, and with rows as they are
stored: in memory and in a database without leases in all fields, and in a database with leases in
all fields but the time of the last change, which is that of before. So a leased row is the one that
is stored exactly if it was last changed at the reading of the clock. Only if the reading lies
before all that a database can store, it refuses to claim any row. -/
theorem claimed_as_stored_iff (limit : Int) {now : Instant} (databaseNow : Instant)
    (hn : now.IsMicros) :
    (∀ store : Store, (store.rows.map (·.id)).Nodup →
      (Storage.memory store).perform ⟨.claim limit, now, databaseNow⟩ =
          (.claimed (.ok (store.claim limit now)), .memory store) ∧
        ∀ row ∈ store.claim limit now,
          row.Handed none now (store.get? row.id) (store.get? row.id)) ∧
      ∀ (db : Database) (ceiling : Option Int) (mode : ClaimMode),
        (db.outbox.map (·.id)).Nodup →
        (∀ lease, mode.lease? = some lease → 1000 ∣ lease ∧ lease ≤ Database.maxLease) →
        ((0 < limit → Database.Accepts now) →
          ∃ rows db', db.respond mode ceiling ⟨.claim limit, now, databaseNow⟩ =
              (.claimed (.ok rows), db') ∧
            ∀ row ∈ rows,
              row.Handed mode.lease? now (db.outboxRow? row.id) (db'.outboxRow? row.id)) ∧
          (0 < limit → ¬ Database.Accepts now →
            db.respond mode ceiling ⟨.claim limit, now, databaseNow⟩ =
              (.claimed (.error (.database Database.outOfRange)), db)) := by
  constructor
  · intro store hu
    refine ⟨perform_claim_memory store limit now databaseNow, fun row hm => ?_⟩
    have hfound : store.get? row.id = some row := find?_of_mem hu (Store.mem_claim hm).1
    rw [hfound]
    exact row.handed_of_read now
  · intro db ceiling mode hu hlease
    refine ⟨fun ha => db.respond_handed hu hn hlease ha databaseNow, fun hl ha => ?_⟩
    exact db.respond_refused (fun lease h => (hlease lease h).2) ha hl databaseNow

section Shelf

/-- A pending event. -/
def waybill (number : Nat) : Draft :=
  ⟨Uuid.reserved number, none, "employee", "7", "employee.created", "hr", [123, 125], .pending⟩

/-- A table with an event that was sent, and one that failed and is due at half a minute. -/
def shelf : Database :=
  { Database.empty with
    outbox := [(Row.ofDraft (waybill 1) ⟨0, 0⟩).markSent ⟨5, 0⟩,
      (Row.ofDraft (waybill 2) ⟨0, 0⟩).markFailed ⟨15, 0⟩ "down"] }

/-- The event that failed is leased when it is due. The claim tells of it that it was last changed
when it failed, while the table says that it was changed by the claim. -/
theorem shelf_claimed_as_stored : (⟨30, 0⟩ : Instant).IsMicros ∧
    ∃ rows db', shelf.respond (.skipLocked 30000000000) none ⟨.claim 10, ⟨30, 0⟩, ⟨30, 0⟩⟩ =
        (.claimed (.ok rows), db') ∧
      rows.map (fun row => (row.id, row.updatedAt)) = [(Uuid.reserved 2, ⟨15, 0⟩)] ∧
      ∀ row ∈ rows, db'.outboxRow? row.id = some { row with updatedAt := ⟨30, 0⟩ } ∧
        db'.outboxRow? row.id ≠ some row := by
  have hn : (⟨30, 0⟩ : Instant).IsMicros := by decide
  obtain ⟨-, hdatabase⟩ := claimed_as_stored_iff 10 ⟨30, 0⟩ hn
  have hlease : ∀ lease, (ClaimMode.skipLocked 30000000000).lease? = some lease →
      1000 ∣ lease ∧ lease ≤ Database.maxLease := by
    rintro lease ⟨⟩
    decide
  obtain ⟨rows, db', hrespond, hhanded⟩ :=
    (hdatabase shelf none (.skipLocked 30000000000) (by decide) hlease).1 fun _ => by decide
  have hrows : rows.map (fun row => (row.id, row.updatedAt)) = [(Uuid.reserved 2, ⟨15, 0⟩)] := by
    have hanswer : (shelf.answered (.skipLocked 30000000000) none
        ⟨.claim 10, ⟨30, 0⟩, ⟨30, 0⟩⟩).answer =
        .claimed (.ok [((Row.ofDraft (waybill 2) ⟨0, 0⟩).markFailed ⟨15, 0⟩ "down").told
          (some 30000000000) ⟨30, 0⟩]) := by
      decide +kernel
    have hsame := (congrArg Prod.fst hrespond).symm.trans hanswer
    obtain rfl := Except.ok.inj (Answer.claimed.inj hsame)
    decide
  refine ⟨hn, rows, db', hrespond, hrows, fun row hm => ?_⟩
  have hbefore : row.updatedAt = ⟨15, 0⟩ := by
    have hmem := List.mem_map_of_mem (f := fun row : Row => (row.id, row.updatedAt)) hm
    rw [hrows, List.mem_singleton] at hmem
    exact congrArg Prod.snd hmem
  refine ⟨(hhanded row hm).stored, fun h => ?_⟩
  rcases (hhanded row hm).same.mp h with h | h
  · cases h
  · exact absurd (hbefore.symm.trans h) (by decide)

/-- So not every claim is answered with rows as they are stored after it: a lease at one second past
the commit of an event is told with the time of the commit. -/
theorem not_always_reads_back :
    ¬ ∀ (storage : Storage) (script : List Entry) (limit : Int) (now : Instant),
      storage.rows = [] → ((storage.after script).rows.map (·.id)).Nodup → now.IsMicros →
        (storage.after script).ReadsBack limit now := by
  intro h
  have hread := h (.database .empty (.skipLocked 30000000000) none)
    [⟨.transact [waybill 1] true, ⟨0, 0⟩, ⟨0, 0⟩⟩] 10 ⟨1, 0⟩ rfl (by decide +kernel) (by decide)
  have hfound : (((Storage.database .empty (.skipLocked 30000000000) none).after
      [⟨.transact [waybill 1] true, ⟨0, 0⟩, ⟨0, 0⟩⟩]).claim 10 ⟨1, 0⟩).map (fun result =>
        result.1.all fun row => result.2.1.get? row.id = .ok (some row)) = .ok false := by
    decide +kernel
  generalize ((Storage.database .empty (.skipLocked 30000000000) none).after
    [⟨.transact [waybill 1] true, ⟨0, 0⟩, ⟨0, 0⟩⟩]) = storage at hread hfound
  cases hc : storage.claim 10 ⟨1, 0⟩ with
  | error error => simp [hc, Except.map] at hfound
  | ok result =>
    obtain ⟨rows, after, notices⟩ := result
    have hall : (rows.all fun row => after.get? row.id = .ok (some row)) = true :=
      List.all_eq_true.mpr fun row hm => decide_eq_true (hread rows after notices hc row hm)
    simp [hc, Except.map, hall] at hfound

end Shelf
end Storage
end HrPipeline
