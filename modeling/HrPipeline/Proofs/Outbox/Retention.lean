import HrPipeline.Proofs.Outbox.Effects

/-!
# What a storage retains

Claiming rows and recording attempts only ever changes the history of rows that are there. Whatever
the clock reads and whichever call fails, no row is added and none gets another origin, and so every
message that is made from a row later is one that could be made from it before.
-/

namespace HrPipeline

open HrPipeline.Calendar HrPipeline.Outbox

namespace Outbox

/-- A row stems from one of some rows: their origins are the same. -/
def Row.StemsFrom (rows : List Row) (row : Row) : Prop := ∃ old ∈ rows, row.origin = old.origin

theorem Row.StemsFrom.of_mem {rows : List Row} {row : Row} (h : row ∈ rows) :
    row.StemsFrom rows := ⟨row, h, rfl⟩

/-- Changing the first row that satisfies a condition adds no row. -/
theorem stemsFrom_updateFirst {condition : Row → Bool} {change : Row → Row}
    (hc : ∀ row, (change row).origin = row.origin) {rows rows' : List Row}
    (h : updateFirst condition change rows = some rows') : ∀ row ∈ rows', row.StemsFrom rows := by
  induction rows generalizing rows' with
  | nil => cases h
  | cons first rows ih =>
    intro row hm
    unfold updateFirst at h
    split at h
    · obtain rfl := Option.some.inj h
      rcases List.mem_cons.mp hm with rfl | hm
      · exact ⟨first, List.mem_cons_self, hc first⟩
      · exact .of_mem (List.mem_cons_of_mem first hm)
    · obtain ⟨rest, hrest, rfl⟩ := Option.map_eq_some_iff.mp h
      rcases List.mem_cons.mp hm with rfl | hm
      · exact .of_mem List.mem_cons_self
      · obtain ⟨old, hold, ho⟩ := ih hrest row hm
        exact ⟨old, List.mem_cons_of_mem first hold, ho⟩

end Outbox

namespace Database

variable {db db' : Database} {id : Uuid} {now : Instant}

/-- What a claim tells of a row keeps its origin. -/
theorem origin_told (lease? : Option Nat) (now : Instant) (row : Row) :
    (row.told lease? now).origin = row.origin := by
  cases lease? <;> rfl

/-- Leasing rows adds none and changes nothing but the outbox. -/
theorem stemsFrom_afterClaim {lease? : Option Nat} {ids : List Uuid} :
    db.afterClaim lease? ids now = { db with outbox := (db.afterClaim lease? ids now).outbox } ∧
      ∀ row ∈ (db.afterClaim lease? ids now).outbox, row.StemsFrom db.outbox := by
  cases lease? with
  | none => exact ⟨rfl, fun row hm => .of_mem hm⟩
  | some lease =>
    refine ⟨rfl, fun row hm => ?_⟩
    obtain ⟨old, hold, rfl⟩ := List.mem_map.mp hm
    refine ⟨old, hold, ?_⟩
    split <;> rfl

/-- A claim adds no row and changes nothing but the outbox, and the rows that it yields stem from
those of the outbox. -/
theorem stemsFrom_claim {mode : ClaimMode} {ceiling : Option Int} {limit : Int} {rows : List Row}
    (h : db.claim mode ceiling limit now = .ok (rows, db')) :
    (db' = { db with outbox := db'.outbox } ∧ ∀ row ∈ db'.outbox, row.StemsFrom db.outbox) ∧
      ∀ row ∈ rows, row.StemsFrom db.outbox := by
  obtain ⟨rfl, rfl⟩ := claim_ok h
  refine ⟨stemsFrom_afterClaim, fun row hm => ?_⟩
  obtain ⟨old, hold, rfl⟩ := List.mem_map.mp hm
  exact ⟨old, (mem_eligible hold).1, origin_told ..⟩

/-- A statement that changes a row adds none and changes nothing but the outbox. -/
theorem stemsFrom_updateRow {change : Row → Row} (hc : ∀ row, (change row).origin = row.origin)
    (h : db.updateRow id change = .ok db') :
    db' = { db with outbox := db'.outbox } ∧ ∀ row ∈ db'.outbox, row.StemsFrom db.outbox := by
  unfold updateRow at h
  split at h
  · next rows hr =>
    obtain rfl := Except.ok.inj h
    exact ⟨rfl, stemsFrom_updateFirst hc hr⟩
  · cases h

/-- A record of an attempt adds no row and changes nothing but the outbox. -/
theorem stemsFrom_marked {change : Row → Row} (hc : ∀ row, (change row).origin = row.origin)
    (h : db.Marked id now change db') :
    db' = { db with outbox := db'.outbox } ∧ ∀ row ∈ db'.outbox, row.StemsFrom db.outbox := by
  cases h with
  | kept row found sent => exact ⟨rfl, fun row hm => .of_mem hm⟩
  | changed row _ found unsent accepted written =>
    have hstored : ∀ row : Row, (storedRow (change row)).origin = row.origin := hc
    exact stemsFrom_updateRow hstored written

end Database

namespace Storage

variable {storage after : Storage} {id : Uuid} {now : Instant}

/-- A storage after a change that adds no row and touches nothing but rows. -/
structure Retains (before after : Storage) : Prop where
  frame : after = before.withRows after.rows
  rows : ∀ row ∈ after.rows, row.StemsFrom before.rows

theorem Retains.refl (storage : Storage) : storage.Retains storage :=
  ⟨withRows_rows.symm, fun _ hm => .of_mem hm⟩

/-- A change of a store in memory that adds no row. -/
private theorem retains_update {store store' : Store} {change : Row → Row}
    (hc : ∀ row, (change row).origin = row.origin) (h : store.update id change = .ok store') :
    (Storage.memory store).Retains (.memory store') := by
  unfold Store.update at h
  split at h
  · next rows hr =>
    obtain rfl := Except.ok.inj h
    exact ⟨rfl, stemsFrom_updateFirst hc hr⟩
  · cases h

/-- A change of a database that adds no row. -/
private theorem retains_outbox {db db' : Database} {mode : ClaimMode} {maxAttempts : Option Int}
    (h : db' = { db with outbox := db'.outbox } ∧ ∀ row ∈ db'.outbox, row.StemsFrom db.outbox) :
    (Storage.database db mode maxAttempts).Retains (.database db' mode maxAttempts) where
  frame := congrArg (Storage.database · mode maxAttempts) h.1
  rows := h.2

/-- A claim adds no row, and the rows that it yields stem from those of the storage. -/
theorem retains_claim {limit : Int} {rows : List Row} {notices : List Notice}
    (h : storage.claim limit now = .ok (rows, after, notices)) :
    storage.Retains after ∧ ∀ row ∈ rows, row.StemsFrom storage.rows := by
  unfold claim at h
  split at h
  · cases h
    exact ⟨.refl _, by simp⟩
  · cases storage with
    | memory store =>
      cases h
      exact ⟨.refl _, fun row hm => .of_mem (Store.mem_claim hm).1⟩
    | database db mode maxAttempts =>
      simp only [bind, Except.bind] at h
      split at h
      · cases h
      · next result hclaim =>
        cases h
        obtain ⟨hdb, hrows⟩ := Database.stemsFrom_claim hclaim
        exact ⟨retains_outbox hdb, hrows⟩
    | unreachable => cases h

/-- Recording an acceptance adds no row. -/
theorem retains_markSent (h : storage.markSent id now = .ok after) : storage.Retains after := by
  cases storage with
  | memory store =>
    obtain ⟨store', hs, rfl⟩ := ok_of_map h
    exact retains_update (fun row => Row.origin_markSent row now) hs
  | database db mode maxAttempts =>
    obtain ⟨db', hd, rfl⟩ := ok_of_map h
    exact retains_outbox (Database.stemsFrom_marked
      (fun row => Row.origin_markSent row now) (Database.markSent_marked hd))
  | unreachable => cases h

/-- Recording a failure adds no row. -/
theorem retains_markFailed {reason : String} (h : storage.markFailed id reason now = .ok after) :
    storage.Retains after := by
  cases storage with
  | memory store =>
    obtain ⟨store', hs, rfl⟩ := ok_of_map h
    exact retains_update (fun row => Row.origin_markFailed row now reason) hs
  | database db mode maxAttempts =>
    obtain ⟨db', hd, rfl⟩ := ok_of_map h
    exact retains_outbox (Database.stemsFrom_marked
      (fun row => Row.origin_markFailed row now reason) (Database.markFailed_marked hd))
  | unreachable => cases h

end Storage
end HrPipeline
