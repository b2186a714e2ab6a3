import HrPipeline.Proofs.Calendar.Micros
import HrPipeline.Storage
import Mathlib.Data.List.Sort

/-!
# What a claim selects

A claim selects the oldest eligible rows. Rows are told apart by their positions in the order of
insertion, so that a row that is stored twice counts twice: `Older` compares two positions, and
`Selects` says which positions a claim with a limit is to select. Whatever the rows are, both
storages answer with the rows at these positions and stay as they were. The database compares times
with the reading of the clock that it keeps, a whole microsecond, and refuses a reading that it
cannot keep.
-/

namespace HrPipeline

open HrPipeline.Calendar HrPipeline.Outbox

namespace Outbox

/-- A row that may be claimed: it is not sent, it is due, and it is not parked. -/
structure Row.Eligible (ceiling : Option Int) (now : Instant) (row : Row) : Prop where
  unsent : row.status ≠ .sent
  due : ∀ due, row.nextRetryAt = some due → due ≤ now
  unparked : row.retryCount < ceiling.getD 2147483647

theorem Row.isEligible_iff (ceiling : Option Int) (now : Instant) (row : Row) :
    row.isEligible ceiling now = true ↔ row.Eligible ceiling now := by
  simp only [isEligible, isClaimable, Bool.and_eq_true, decide_eq_true_eq, ne_eq]
  constructor
  · intro ⟨⟨hunsent, hdue⟩, hcount⟩
    refine ⟨hunsent, fun due hd => ?_, hcount⟩
    simpa only [hd, decide_eq_true_eq] using hdue
  · intro ⟨hunsent, hdue, hcount⟩
    refine ⟨⟨hunsent, ?_⟩, hcount⟩
    cases hd : row.nextRetryAt with
    | none => rfl
    | some due => exact decide_eq_true (hdue due hd)

section Order

variable (rows : List Row)

/-- The row at a position is older than the one at another: it was committed earlier, or at the same
instant and before it. -/
def Older (i j : Fin rows.length) : Prop :=
  rows[i].createdAt ≤ rows[j].createdAt ∧ (rows[j].createdAt ≤ rows[i].createdAt → i < j)

/-- The positions of the oldest eligible rows, as many as a limit allows. -/
structure Selects (ceiling : Option Int) (now : Instant) (limit : Int)
    (chosen : List (Fin rows.length)) : Prop where
  length : chosen.length = min limit.toNat (rows.countP (·.isEligible ceiling now))
  eligible : ∀ i ∈ chosen, rows[i].Eligible ceiling now
  apart : chosen.Nodup
  sorted : chosen.Pairwise (Older rows)
  oldest : ∀ i, rows[i].Eligible ceiling now → i ∉ chosen → ∀ j ∈ chosen, Older rows j i

/-- The positions of the eligible rows in the order of insertion. -/
def eligiblePositions (ceiling : Option Int) (now : Instant) : List (Fin rows.length) :=
  (List.finRange rows.length).filter fun i => rows[i].isEligible ceiling now

/-- The order of positions by which a claim sorts. -/
def notAfter (i j : Fin rows.length) : Bool := rows[i].createdAt ≤ rows[j].createdAt

variable {rows} {ceiling : Option Int} {now : Instant}

theorem notAfter_trans (i j k : Fin rows.length) (hij : notAfter rows i j = true)
    (hjk : notAfter rows j k = true) : notAfter rows i k = true := by
  simp only [notAfter, decide_eq_true_eq] at *
  exact Instant.le_trans hij hjk

theorem notAfter_total (i j : Fin rows.length) :
    (notAfter rows i j || notAfter rows j i) = true := by
  simp only [notAfter, Bool.or_eq_true, decide_eq_true_eq]
  exact Instant.le_total _ _

theorem mem_eligiblePositions (i : Fin rows.length) :
    i ∈ eligiblePositions rows ceiling now ↔ rows[i].Eligible ceiling now := by
  simp [eligiblePositions, Row.isEligible_iff]

theorem eligiblePositions_sorted :
    (eligiblePositions rows ceiling now).Pairwise fun i j => i < j :=
  (List.pairwise_lt_finRange rows.length).filter _

theorem eligiblePositions_nodup : (eligiblePositions rows ceiling now).Nodup :=
  (List.nodup_finRange rows.length).filter _

theorem map_eligiblePositions :
    (eligiblePositions rows ceiling now).map (fun i => rows[i]) =
      rows.filter (·.isEligible ceiling now) := by
  have hrows : (List.finRange rows.length).map (fun i => rows[i]) = rows :=
    List.map_getElem_finRange rows
  conv => rhs; rw [← hrows]
  rw [List.filter_map]
  rfl

/-- Of two positions of eligible rows the earlier one comes first. -/
private theorem pair_sublist {i j : Fin rows.length} (hi : rows[i].Eligible ceiling now)
    (hj : rows[j].Eligible ceiling now) (h : i < j) :
    [i, j].Sublist (eligiblePositions rows ceiling now) := by
  apply List.sublist_of_subperm_of_sortedLE
  · apply List.subperm_of_subset (by simp [h.ne])
    simp only [List.cons_subset, mem_eligiblePositions, List.nil_subset, and_true]
    exact ⟨hi, hj⟩
  · exact (List.pairwise_pair.mpr h.le).sortedLE
  · exact (eligiblePositions_sorted.imp fun h => h.le).sortedLE

/-- A list that names nothing twice does not have two entries in both orders. -/
private theorem not_sublist_swap {α : Type} {a b : α} {entries : List α} (hu : entries.Nodup)
    (hab : [a, b].Sublist entries) : ¬ [b, a].Sublist entries := by
  induction entries with
  | nil => simp at hab
  | cons first rest ih =>
    obtain ⟨hfirst, hrest⟩ := List.nodup_cons.mp hu
    intro hba
    cases hab with
    | cons _ hab =>
      cases hba with
      | cons _ hba => exact ih hrest hab hba
      | cons_cons _ hba => exact hfirst (hab.subset (by simp))
    | cons_cons _ hb =>
      cases hba with
      | cons _ hba => exact hfirst (hba.subset (by simp))
      | cons_cons _ _ => exact hfirst (hb.subset (by simp))

section Oldest

variable (rows ceiling now)

/-- The positions of the eligible rows, the oldest first. -/
def oldestPositions : List (Fin rows.length) :=
  (eligiblePositions rows ceiling now).mergeSort (notAfter rows)

end Oldest

theorem mem_oldestPositions (i : Fin rows.length) :
    i ∈ oldestPositions rows ceiling now ↔ rows[i].Eligible ceiling now := by
  rw [oldestPositions, List.mem_mergeSort, mem_eligiblePositions]

theorem oldestPositions_nodup : (oldestPositions rows ceiling now).Nodup :=
  (List.mergeSort_perm _ _).nodup_iff.mpr eligiblePositions_nodup

theorem length_oldestPositions :
    (oldestPositions rows ceiling now).length = rows.countP (·.isEligible ceiling now) := by
  rw [oldestPositions, List.length_mergeSort, List.countP_eq_length_filter,
    ← map_eligiblePositions, List.length_map]

/-- Sorting positions sorts their rows. -/
theorem map_oldestPositions :
    (oldestPositions rows ceiling now).map (fun i => rows[i]) =
      oldestFirst (rows.filter (·.isEligible ceiling now)) := by
  rw [← map_eligiblePositions]
  exact List.map_mergeSort fun _ _ _ _ => rfl

/-- The sort is stable: it does not put a position before an earlier one of the same instant. -/
theorem oldestPositions_sorted : (oldestPositions rows ceiling now).Pairwise (Older rows) := by
  rw [List.pairwise_iff_forall_sublist]
  intro i j hij
  constructor
  · have hsorted := List.pairwise_mergeSort notAfter_trans notAfter_total
      (eligiblePositions rows ceiling now)
    exact of_decide_eq_true (List.pairwise_iff_forall_sublist.mp hsorted hij)
  · intro hback
    have hne : i ≠ j := by
      rintro rfl
      exact absurd (oldestPositions_nodup.sublist hij) (by simp)
    by_contra hlt
    have hi := (mem_oldestPositions i).mp (hij.subset (by simp))
    have hj := (mem_oldestPositions j).mp (hij.subset (by simp))
    have hji : [j, i].Sublist (oldestPositions rows ceiling now) :=
      List.pair_sublist_mergeSort notAfter_trans notAfter_total (decide_eq_true hback)
        (pair_sublist hj hi (lt_of_le_of_ne (not_lt.mp hlt) hne.symm))
    exact not_sublist_swap oldestPositions_nodup hij hji

/-- The first of the sorted positions are those that a claim is to select. -/
theorem selects_take (limit : Int) :
    Selects rows ceiling now limit ((oldestPositions rows ceiling now).take limit.toNat) := by
  constructor
  case length => rw [List.length_take, length_oldestPositions]
  case eligible => exact fun i hi => (mem_oldestPositions i).mp (List.mem_of_mem_take hi)
  case apart => exact oldestPositions_nodup.sublist (List.take_sublist _ _)
  case sorted => exact oldestPositions_sorted.sublist (List.take_sublist _ _)
  case oldest =>
    intro i hi hnot j hj
    have hsplit := List.take_append_drop limit.toNat (oldestPositions rows ceiling now)
    have hmem := (mem_oldestPositions i).mpr hi
    have hsorted : (oldestPositions rows ceiling now).Pairwise (Older rows) :=
      oldestPositions_sorted
    rw [← hsplit, List.mem_append] at hmem
    rw [← hsplit, List.pairwise_append] at hsorted
    exact hsorted.2.2 j hj i (hmem.resolve_left hnot)

end Order

/-- A store claims the rows at the first of the sorted positions. -/
theorem Store.claim_eq_map (rows : List Row) (ceiling : Option Int) (limit : Int) (now : Instant) :
    (Store.mk rows ceiling).claim limit now =
      ((oldestPositions rows ceiling now).take limit.toNat).map fun i => rows[i] := by
  rw [List.map_take, map_oldestPositions]
  rfl

/-- What is due for the database at a reading of the clock is due then, and nothing else is, unless
the reading is cut up. -/
theorem Row.eligible_toMicros_iff {ceiling : Option Int} {now : Instant} {row : Row}
    (hdue : ∀ due, row.nextRetryAt = some due → due.IsMicros)
    (hnow : now.IsMicros ∨ now.nano < nanosPerSecond ∧ 946684800 ≤ now.second) :
    row.Eligible ceiling now.toMicros ↔ row.Eligible ceiling now := by
  have hsame : ∀ due, row.nextRetryAt = some due → (due ≤ now.toMicros ↔ due ≤ now) := by
    intro due hd
    rcases hnow with hmicros | ⟨hordinary, hlate⟩
    · rw [hmicros.toMicros_eq]
    · exact (hdue due hd).le_toMicros_iff hordinary hlate
  constructor
  · intro h
    exact ⟨h.unsent, fun due hd => (hsame due hd).mp (h.due due hd), h.unparked⟩
  · intro h
    exact ⟨h.unsent, fun due hd => (hsame due hd).mpr (h.due due hd), h.unparked⟩

end Outbox

namespace Storage

/-- At a reading of the clock, claims with any limits answer with the oldest rows that are eligible
at an instant, a smaller limit with the first of those of a larger one, and change nothing. -/
def ClaimsOldest (storage : Storage) (ceiling : Option Int) (reading now : Instant) : Prop :=
  ∃ chosen : Int → List (Fin storage.rows.length),
    (∀ limit, Selects storage.rows ceiling now limit (chosen limit) ∧
      ∃ notices, storage.claim limit reading =
        .ok ((chosen limit).map fun i => storage.rows[i], storage, notices)) ∧
    ∀ smaller larger, smaller ≤ larger → chosen smaller <+: chosen larger

/-- A storage that answers every claim as a store with its rows claims the oldest rows. -/
private theorem claimsOldest_of_claim {storage : Storage} {ceiling : Option Int}
    {reading now : Instant}
    (h : ∀ limit, ∃ notices, storage.claim limit reading =
      .ok ((Store.mk storage.rows ceiling).claim limit now, storage, notices)) :
    storage.ClaimsOldest ceiling reading now := by
  refine ⟨fun limit => (oldestPositions storage.rows ceiling now).take limit.toNat,
    fun limit => ⟨selects_take limit, ?_⟩, fun smaller larger hle => ?_⟩
  · rw [← Store.claim_eq_map]
    exact h limit
  · exact List.take_prefix_take_left (Int.toNat_le_toNat hle)

theorem claimsOldest_memory (rows : List Row) (ceiling : Option Int) (now : Instant) :
    (Storage.memory ⟨rows, ceiling⟩).ClaimsOldest ceiling now now := by
  apply claimsOldest_of_claim
  intro limit
  refine ⟨[], ?_⟩
  unfold claim
  split
  · next hl => rw [Store.claim_of_nonpos _ limit now hl]
  · rfl

theorem claimsOldest_database (db : Database) (ceiling : Option Int) {now : Instant}
    (ha : Database.Accepts now) :
    (Storage.database db .shared ceiling).ClaimsOldest ceiling now now.toMicros := by
  apply claimsOldest_of_claim
  intro limit
  by_cases hl : limit ≤ 0
  · refine ⟨[], ?_⟩
    rw [claim, if_pos hl, Store.claim_of_nonpos _ limit _ hl]
  · refine ⟨[.batchClaimed], ?_⟩
    simp only [claim, if_neg hl, Database.claim, if_pos ha]
    rfl

/-- At a reading of the clock that it cannot store, a database refuses to claim any row. -/
theorem claim_of_not_accepts (db : Database) (ceiling : Option Int) (limit : Int) {now : Instant}
    (ha : ¬ Database.Accepts now) :
    (Storage.database db .shared ceiling).claim limit now =
      if limit ≤ 0 then .ok ([], .database db .shared ceiling, [])
      else .error (.database Database.outOfRange) := by
  simp only [claim, Database.claim, if_neg ha]
  rfl

/-- A claim answers with the oldest eligible rows, whatever rows there are, whatever the clock reads
and whatever the ceiling and the limit are. A store in memory takes the reading of the clock as it
is, and a database takes it in whole microseconds. That makes no difference for the times that a
database stores, unless the reading lies in a leap second, or before 2000 and between two whole
microseconds. A reading before all that it can store, a database refuses. -/
theorem claims_oldest (ceiling : Option Int) (now : Instant) :
    (∀ rows, (Storage.memory ⟨rows, ceiling⟩).ClaimsOldest ceiling now now) ∧
      (Database.Accepts now → ∀ db,
        (Storage.database db .shared ceiling).ClaimsOldest ceiling now now.toMicros) ∧
      (¬ Database.Accepts now → ∀ db limit,
        (Storage.database db .shared ceiling).claim limit now =
          if limit ≤ 0 then .ok ([], .database db .shared ceiling, [])
          else .error (.database Database.outOfRange)) ∧
      ∀ row : Row, (∀ due, row.nextRetryAt = some due → due.IsMicros) →
        now.IsMicros ∨ now.nano < nanosPerSecond ∧ 946684800 ≤ now.second →
        (row.Eligible ceiling now.toMicros ↔ row.Eligible ceiling now) :=
  ⟨fun rows => claimsOldest_memory rows ceiling now,
    fun ha db => claimsOldest_database db ceiling ha,
    fun ha db limit => claim_of_not_accepts db ceiling limit ha,
    fun _ => Row.eligible_toMicros_iff⟩

/-- A pending row that was committed at an instant. -/
def entered (number : Nat) (createdAt : Instant) : Row :=
  Row.ofDraft ⟨Uuid.reserved number, none, "employee", "7", "employee.created", "hr", [123, 125],
    .pending⟩ createdAt

/-- Rows that were not inserted in the order of their commits, two of them of one instant and one of
them to be tried again. -/
def disordered : List Row :=
  [(entered 1 ⟨1784105420, 0⟩).markFailed ⟨1784105430, 500000⟩ "down", entered 2 ⟨1784105400, 0⟩,
    entered 3 ⟨1784105410, 0⟩, entered 4 ⟨1784105400, 0⟩]

/-- The oldest of these rows are claimed, the first two of them in the order of their insertion. The
row that is to be tried again is due for a database as well. -/
theorem disordered_claims_oldest :
    ((Store.mk disordered none).claim 3 ⟨1784105445, 500999⟩).map (·.id) =
        [Uuid.reserved 2, Uuid.reserved 4, Uuid.reserved 3] ∧
      (Storage.memory ⟨disordered, none⟩).ClaimsOldest none ⟨1784105445, 500999⟩
        ⟨1784105445, 500999⟩ ∧
      (disordered[0].Eligible none (Instant.toMicros ⟨1784105445, 500999⟩) ↔
        disordered[0].Eligible none ⟨1784105445, 500999⟩) := by
  obtain ⟨hmemory, -, -, heligible⟩ := claims_oldest none ⟨1784105445, 500999⟩
  have hall : disordered.filter (·.isEligible none ⟨1784105445, 500999⟩) = disordered := by
    decide +kernel
  refine ⟨?_, hmemory disordered, heligible _ ?_ (.inr (by decide))⟩
  · rw [Store.claim, hall]
    -- The sort recurses on lengths, so that it is unfolded here and not decided.
    simp [oldestFirst, disordered, entered, Row.ofDraft, Row.markFailed, Instant.le_def,
      List.mergeSort, List.MergeSort.Internal.splitInTwo, List.splitAt, List.splitAt.go]
  · intro due hd
    obtain rfl : ⟨1784105445, 500000⟩ = due := Option.some.inj hd
    decide

/-- Tables with a row that is to be tried again a quarter of a minute before the year 2000. -/
def overdue : Database :=
  { Database.empty with
    outbox := [(entered 1 ⟨946684700, 0⟩).markFailed ⟨946684770, 0⟩ "down"] }

/-- A database may claim a row that is not yet due. Half a microsecond before the row is due, and
that before the year 2000, the clock is read, and the reading is cut up to the time at which the row
is due. -/
theorem not_always_claims_oldest :
    ¬ ∀ db ceiling now, (Storage.database db .shared ceiling).ClaimsOldest ceiling now now := by
  intro h
  obtain ⟨chosen, hchosen, -⟩ := h overdue none ⟨946684784, 999999500⟩
  obtain ⟨hselects, notices, hclaim⟩ := hchosen 1
  have hone : (chosen 1).map (fun i => overdue.outbox[i]) = overdue.outbox := by
    have hanswer : (Storage.database overdue .shared none).claim 1 ⟨946684784, 999999500⟩ =
        .ok (overdue.outbox, .database overdue .shared none, [.batchClaimed]) := by
      decide +kernel
    rw [hanswer] at hclaim
    exact (congrArg Prod.fst (Except.ok.inj hclaim)).symm
  have hmem : overdue.outbox[0] ∈ (chosen 1).map fun i => overdue.outbox[i] := by
    rw [hone]
    exact List.mem_cons_self
  obtain ⟨i, hi, hrow⟩ := List.mem_map.mp hmem
  have hdue := (hselects.eligible i hi).due ⟨946684785, 0⟩ (congrArg Row.nextRetryAt hrow)
  exact absurd hdue (by decide)

end Storage
end HrPipeline
