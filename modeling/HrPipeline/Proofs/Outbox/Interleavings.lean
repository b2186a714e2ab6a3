import HrPipeline.Proofs.Outbox.Effects
import Mathlib.Data.List.Induction

/-!
# Interleavings of commits and marks

Several tasks work on one store in memory: some commit rows, others mark rows as sent or failed.
How their operations interleave makes no difference, as long as every mark comes after the commit of
its row. The store is a function of the commits in their order and, for every row, of its own marks
in their order; and of these only so much matters as `Row.concluded` reads.
-/

namespace HrPipeline

open HrPipeline.Calendar HrPipeline.Outbox

namespace Outbox

/-- The result of an attempt as it is recorded for a row. -/
inductive Mark where
  | sent (now : Instant)
  | failed (reason : String) (now : Instant)
deriving DecidableEq

def Mark.isSent : Mark → Bool
  | sent _ => true
  | failed _ _ => false

/-- The count of failed attempts after some more. -/
def retriesAfter (failures : Nat) (retryCount : Int) : Int :=
  if failures = 0 then retryCount else min (retryCount + failures) maxRetryCount

/-- The first of them is counted first. -/
theorem retriesAfter_succ (failures : Nat) (retryCount : Int) :
    retriesAfter (failures + 1) retryCount = retriesAfter failures (nextRetryCount retryCount) := by
  unfold retriesAfter nextRetryCount maxRetryCount
  split <;> split <;> omega

namespace Row

/-- A row after a mark. -/
def marked (row : Row) : Mark → Row
  | .sent now => row.markSent now
  | .failed reason now => row.markFailed now reason

/-- A row that was not sent, after a number of failures and the mark that counts: the first that it
was sent, or else the last failure. -/
def concluded (failures : Nat) (ending : Option Mark) (row : Row) : Row :=
  if row.status = .sent then row
  else
    let retryCount := retriesAfter failures row.retryCount
    match ending with
    | none => row
    | some (.sent now) =>
      { row with
        status := .sent, retryCount, nextRetryAt := none, processedAt := some now,
        errorMessage := none, updatedAt := now }
    | some (.failed reason now) =>
      { row with
        status := .failed, retryCount,
        nextRetryAt := some (now.addSeconds (backoffSeconds retryCount)),
        errorMessage := some (truncateError reason), updatedAt := now }

end Row

/-- The number of failures before the first mark that a row was sent. -/
def failures (marks : List Mark) : Nat := (marks.takeWhile (!·.isSent)).length

/-- The first mark that a row was sent, or else the last one. -/
def ending? (marks : List Mark) : Option Mark := (marks.find? (·.isSent)).or marks.getLast?

section Rows

variable {row : Row} {marks : List Mark}

theorem id_foldl_marked (marks : List Mark) (row : Row) :
    (marks.foldl Row.marked row).id = row.id := by
  induction marks generalizing row with
  | nil => rfl
  | cons mark marks ih =>
    rw [List.foldl_cons, ih]
    cases mark with
    | sent now => exact row.markSent_id now
    | failed reason now => exact row.markFailed_id now reason

/-- Marks of a sent row have no effect. -/
theorem foldl_marked_of_sent (h : row.status = .sent) (marks : List Mark) :
    marks.foldl Row.marked row = row := by
  induction marks with
  | nil => rfl
  | cons mark marks ih =>
    have hkept : row.marked mark = row := by
      cases mark with
      | sent now => exact row.markSent_of_sent now h
      | failed reason now => exact row.markFailed_of_sent now reason h
    rw [List.foldl_cons, hkept, ih]

theorem ending?_failed_cons (reason : String) (now : Instant) (marks : List Mark) :
    ending? (.failed reason now :: marks) = (ending? marks).or (some (.failed reason now)) := by
  unfold ending?
  rw [List.find?_cons_of_neg (by simp [Mark.isSent]), List.getLast?_cons]
  cases marks.find? (·.isSent) <;> cases marks.getLast? <;> rfl

/-- Without an ending there was no failure. -/
theorem failures_of_ending? (h : ending? marks = none) : failures marks = 0 := by
  have hnil : marks = [] := List.getLast?_eq_none_iff.mp (Option.or_eq_none_iff.mp h).2
  rw [hnil]
  rfl

/-- One failure more, before the others. -/
theorem concluded_markFailed (hs : row.status ≠ .sent) (reason : String) (now : Instant)
    {count : Nat} {ending : Option Mark} (hc : ending = none → count = 0) :
    (row.markFailed now reason).concluded count ending =
      row.concluded (count + 1) (ending.or (some (.failed reason now))) := by
  have hunsent : (row.markFailed now reason).status ≠ .sent := by simp [Row.markFailed, hs]
  unfold Row.concluded
  rw [if_neg hunsent, if_neg hs, retriesAfter_succ]
  cases ending with
  | none => simp [hc rfl, Row.markFailed, retriesAfter, hs]
  | some mark => cases mark <;> simp [Row.markFailed, hs]

/-- The marks of a row come to the number of failures and the mark that counts. -/
theorem foldl_marked (marks : List Mark) (row : Row) :
    marks.foldl Row.marked row = row.concluded (failures marks) (ending? marks) := by
  induction marks generalizing row with
  | nil => simp [Row.concluded, ending?]
  | cons mark marks ih =>
    by_cases hs : row.status = .sent
    · rw [foldl_marked_of_sent hs, Row.concluded, if_pos hs]
    · cases mark with
      | sent now =>
        rw [List.foldl_cons, Row.marked, foldl_marked_of_sent (row.markSent_status now)]
        simp [Row.concluded, Row.markSent, failures, ending?, Mark.isSent, retriesAfter, hs]
      | failed reason now =>
        rw [List.foldl_cons, Row.marked, ih, concluded_markFailed hs _ _ failures_of_ending?,
          ending?_failed_cons]
        rfl

end Rows

namespace Entry

/-- Whether an entry is a transaction. -/
def isTransaction (entry : Entry) : Bool :=
  match entry.operation with
  | .transact _ _ => true
  | .claim _ | .markSent _ | .markFailed _ _ | .get _ => false

/-- The mark that an entry makes, with the identifier of the row. -/
def mark? (entry : Entry) : Option (Uuid × Mark) :=
  match entry.operation with
  | .markSent id => some (id, .sent entry.now)
  | .markFailed id reason => some (id, .failed reason entry.now)
  | .transact _ _ | .claim _ | .get _ => none

/-- The mark that an entry makes on the row with an identifier. -/
def markOn? (id : Uuid) (entry : Entry) : Option Mark :=
  (entry.mark?.filter (·.1 = id)).map (·.2)

/-- Whether an entry marks the row with an identifier. -/
def marks (id : Uuid) (entry : Entry) : Bool := (entry.markOn? id).isSome

/-- The rows that an entry commits to a store in memory. -/
def committed (entry : Entry) : List Row :=
  match entry.operation with
  | .transact drafts true => (drafts.filter (·.isAccepted)).map (Row.ofDraft · entry.now)
  | .transact _ false | .claim _ | .markSent _ | .markFailed _ _ | .get _ => []

/-- What a store in memory answers to a transaction, and to a mark of a row that is there. -/
def answer (entry : Entry) : Answer :=
  match entry.operation with
  | .transact drafts commits => .enlisted (drafts.map Draft.check) commits
  | .claim _ | .markSent _ | .markFailed _ _ | .get _ => .recorded (.ok ())

end Entry

/-- The rows that a script commits, in order. -/
def committedRows (script : List Entry) : List Row := script.flatMap Entry.committed

/-- The marks that a script makes on the row with an identifier, in order. -/
def marksOn (id : Uuid) (script : List Entry) : List Mark := script.filterMap (·.markOn? id)

/-- Rows that are there and those of a script have identifiers of their own, and every mark comes
after the commit of its row. -/
structure Coherent (rows : List Row) (script : List Entry) : Prop where
  apart : ((rows ++ committedRows script).map (·.id)).Nodup
  marked : ∀ before entry later, script = before ++ entry :: later →
    ∀ id, entry.marks id = true → id ∈ (rows ++ committedRows before).map (·.id)

/-- Two scripts with the same transactions in the same order and, for each identifier, the same
marks in the same order. -/
structure Interleaves (first second : List Entry) : Prop where
  transactions : first.filter (·.isTransaction) = second.filter (·.isTransaction)
  marks : ∀ id, first.filter (·.marks id) = second.filter (·.marks id)

variable {rows : List Row} {script later : List Entry} {entry : Entry}

theorem committedRows_append (script later : List Entry) :
    committedRows (script ++ later) = committedRows script ++ committedRows later :=
  List.flatMap_append

theorem marksOn_concat (id : Uuid) (script : List Entry) (entry : Entry) :
    marksOn id (script ++ [entry]) = marksOn id script ++ (entry.markOn? id).toList := by
  unfold marksOn
  rw [List.filterMap_append]
  cases h : entry.markOn? id <;> simp [h]

theorem committed_of_not_isTransaction (h : entry.isTransaction = false) :
    entry.committed = [] := by
  obtain ⟨operation, now, databaseNow⟩ := entry
  cases operation with
  | transact _ _ => cases h
  | claim _ | markSent _ | markFailed _ _ | get _ => rfl

theorem mark?_of_isTransaction (h : entry.isTransaction = true) : entry.mark? = none := by
  obtain ⟨operation, now, databaseNow⟩ := entry
  cases operation with
  | transact _ _ => rfl
  | claim _ | markSent _ | markFailed _ _ | get _ => cases h

theorem markOn?_of_mark? {id : Uuid} {mark : Mark} (h : entry.mark? = some (id, mark))
    (other : Uuid) : entry.markOn? other = if other = id then some mark else none := by
  by_cases ho : other = id
  · simp [Entry.markOn?, h, ho, Option.filter]
  · simp [Entry.markOn?, h, ho, Ne.symm ho, Option.filter]

theorem markOn?_of_mark?_eq_none (h : entry.mark? = none) (id : Uuid) :
    entry.markOn? id = none := by
  rw [Entry.markOn?, h]
  rfl

/-- An entry marks the row with an identifier if that is the one of its mark. -/
theorem marks_iff {id : Uuid} : entry.marks id = true ↔ ∃ mark, entry.mark? = some (id, mark) := by
  cases h : entry.mark? with
  | none => simp [Entry.marks, markOn?_of_mark?_eq_none h]
  | some found =>
    obtain ⟨other, mark⟩ := found
    by_cases ho : id = other <;> simp [Entry.marks, markOn?_of_mark? h, ho, eq_comm]

/-- The rows depend on the transactions only. -/
theorem committedRows_eq (script : List Entry) :
    committedRows script = committedRows (script.filter (·.isTransaction)) := by
  induction script with
  | nil => rfl
  | cons entry script ih =>
    unfold committedRows at ih ⊢
    cases h : entry.isTransaction with
    | true => rw [List.filter_cons_of_pos h, List.flatMap_cons, List.flatMap_cons, ih]
    | false =>
      rw [List.filter_cons_of_neg (by simp [h]), List.flatMap_cons,
        committed_of_not_isTransaction h, List.nil_append, ih]

/-- The marks of a row depend on the entries that mark it only. -/
theorem marksOn_eq (id : Uuid) (script : List Entry) :
    marksOn id script = marksOn id (script.filter (·.marks id)) := by
  induction script with
  | nil => rfl
  | cons entry script ih =>
    unfold marksOn at ih ⊢
    cases h : entry.markOn? id with
    | some mark =>
      rw [List.filter_cons_of_pos (by simp [Entry.marks, h]), List.filterMap_cons_some h,
        List.filterMap_cons_some h, ih]
    | none =>
      rw [List.filter_cons_of_neg (by simp [Entry.marks, h]), List.filterMap_cons_none h, ih]

/-- Whether a script is coherent can be read off its entries one by one. -/
theorem coherent_iff :
    Coherent rows script ↔ ((rows ++ committedRows script).map (·.id)).Nodup ∧
      ∀ n, (h : n < script.length) → ∀ found ∈ script[n].mark?,
        found.1 ∈ (rows ++ committedRows (script.take n)).map (·.id) := by
  constructor
  · rintro ⟨hu, hm⟩
    refine ⟨hu, fun n hn found hfound => hm (script.take n) script[n] (script.drop (n + 1)) ?_ _
      (marks_iff.mpr ⟨found.2, hfound⟩)⟩
    rw [List.getElem_cons_drop, List.take_append_drop]
  · rintro ⟨hu, hm⟩
    refine ⟨hu, ?_⟩
    rintro before entry later rfl id hid
    obtain ⟨mark, hmark⟩ := marks_iff.mp hid
    have hfound := hm before.length (by simp) (id, mark) (by simpa using hmark)
    simpa using hfound

instance (rows : List Row) (script : List Entry) : Decidable (Coherent rows script) :=
  decidable_of_iff' _ coherent_iff

/-- Whether scripts interleave can be read off the identifiers that they mark. -/
theorem interleaves_iff {first second : List Entry} :
    Interleaves first second ↔
      first.filter (·.isTransaction) = second.filter (·.isTransaction) ∧
        ∀ found ∈ (first ++ second).filterMap (·.mark?),
          first.filter (·.marks found.1) = second.filter (·.marks found.1) := by
  constructor
  · exact fun h => ⟨h.transactions, fun found _ => h.marks found.1⟩
  · rintro ⟨ht, hm⟩
    refine ⟨ht, fun id => ?_⟩
    by_cases hid : ∃ entry ∈ first ++ second, entry.marks id = true
    · obtain ⟨entry, he, hmarks⟩ := hid
      obtain ⟨mark, hmark⟩ := marks_iff.mp hmarks
      exact hm (id, mark) (List.mem_filterMap.mpr ⟨entry, he, hmark⟩)
    · have hnone : ∀ entry ∈ first ++ second, ¬ entry.marks id = true := by simpa using hid
      rw [List.filter_eq_nil_iff.mpr fun entry he => hnone entry (List.mem_append_left _ he),
        List.filter_eq_nil_iff.mpr fun entry he => hnone entry (List.mem_append_right _ he)]

instance (first second : List Entry) : Decidable (Interleaves first second) :=
  decidable_of_iff' _ interleaves_iff

namespace Coherent

theorem of_append (h : Coherent rows (script ++ later)) : Coherent rows script where
  apart := by
    have hu := h.apart
    rw [committedRows_append, ← List.append_assoc, List.map_append] at hu
    exact hu.of_append_left
  marked before entry rest hsplit := h.marked before entry (rest ++ later) (by simp [hsplit])

/-- A row that is yet to be committed has no marks. -/
theorem marksOn_eq_nil (h : Coherent rows script) {id : Uuid}
    (hn : id ∉ (rows ++ committedRows script).map (·.id)) : marksOn id script = [] := by
  unfold marksOn
  rw [List.filterMap_eq_nil_iff]
  intro entry hm
  obtain ⟨before, later, rfl⟩ := List.append_of_mem hm
  by_contra hmark
  refine hn ?_
  have hid := h.marked before entry later rfl id (Option.isSome_iff_ne_none.mpr hmark)
  rw [committedRows_append, ← List.append_assoc, List.map_append]
  exact List.mem_append_left _ hid

end Coherent

/-- Rows and those of a script, each after its own marks. -/
def markedRows (rows : List Row) (script : List Entry) : List Row :=
  (rows ++ committedRows script).map fun row => (marksOn row.id script).foldl Row.marked row

theorem ids_markedRows (rows : List Row) (script : List Entry) :
    (markedRows rows script).map (·.id) = (rows ++ committedRows script).map (·.id) := by
  unfold markedRows
  rw [List.map_map]
  exact List.map_congr_left fun row _ => id_foldl_marked _ row

/-- One entry more marks the rows that are there and appends those that it commits. -/
theorem Coherent.markedRows_concat (h : Coherent rows (script ++ [entry])) :
    markedRows rows (script ++ [entry]) =
      ((markedRows rows script).map fun row => (entry.markOn? row.id).elim row row.marked) ++
        entry.committed := by
  have hentry : committedRows [entry] = entry.committed := by simp [committedRows]
  unfold markedRows
  rw [committedRows_append, hentry, ← List.append_assoc, List.map_append, List.map_map]
  congr 1
  · refine List.map_congr_left fun row _ => ?_
    simp only [Function.comp, id_foldl_marked, marksOn_concat]
    cases entry.markOn? row.id <;> simp
  · refine (List.map_congr_left fun row hrow => ?_).trans (List.map_id' _)
    -- the row is new, so that nothing marked it before, and a transaction marks nothing
    have hnew : row.id ∉ (rows ++ committedRows script).map (·.id) := by
      have hu := h.apart
      rw [committedRows_append, hentry, ← List.append_assoc, List.map_append] at hu
      exact fun hold => List.disjoint_of_nodup_append hu hold (List.mem_map_of_mem hrow)
    have htransaction : entry.isTransaction = true := by
      by_contra hother
      rw [committed_of_not_isTransaction (by simpa using hother)] at hrow
      cases hrow
    rw [marksOn_concat, h.of_append.marksOn_eq_nil hnew,
      markOn?_of_mark?_eq_none (mark?_of_isTransaction htransaction)]
    rfl

end Outbox

namespace Storage

variable {store : Store} {script : List Entry} {entry : Entry}

private theorem update_memory {id : Uuid} {change : Row → Row}
    (hu : (store.rows.map (·.id)).Nodup) (hm : id ∈ store.rows.map (·.id)) :
    store.update id change = .ok { store with
      rows := store.rows.map fun row => if row.id = id then change row else row } := by
  rw [Store.update_eq hu, if_pos]
  simpa using hm

/-- A mark of a row that is there changes the row. -/
theorem perform_mark {id : Uuid} {mark : Mark} (h : entry.mark? = some (id, mark))
    (hu : (store.rows.map (·.id)).Nodup) (hm : id ∈ store.rows.map (·.id)) :
    (Storage.memory store).perform entry = (entry.answer, .memory { store with
      rows := store.rows.map fun row => if row.id = id then row.marked mark else row }) := by
  obtain ⟨operation, now, databaseNow⟩ := entry
  cases operation with
  | transact _ _ | claim _ | get _ => cases h
  | markSent other =>
    obtain ⟨rfl, rfl⟩ := Prod.mk.inj (Option.some.inj h)
    simp only [perform, markSent, Store.markSent, update_memory hu hm]
    rfl
  | markFailed other reason =>
    obtain ⟨rfl, rfl⟩ := Prod.mk.inj (Option.some.inj h)
    simp only [perform, markFailed, Store.markFailed, update_memory hu hm]
    rfl

/-- A transaction appends the rows that it commits. -/
theorem perform_transaction (h : entry.isTransaction = true) :
    (Storage.memory store).perform entry =
      (entry.answer, .memory { store with rows := store.rows ++ entry.committed }) := by
  obtain ⟨operation, now, databaseNow⟩ := entry
  cases operation with
  | claim _ | markSent _ | markFailed _ _ | get _ => cases h
  | transact drafts commits =>
    simp only [perform, transact, enlistEach_attempt]
    cases commits <;>
      simp [Entry.answer, Entry.committed, Store.commit, Transaction.empty]

/-- Claims and look-ups change nothing. -/
theorem perform_other (ht : entry.isTransaction = false) (hm : entry.mark? = none) :
    ((Storage.memory store).perform entry).2 = .memory store := by
  obtain ⟨operation, now, databaseNow⟩ := entry
  cases operation with
  | transact _ _ => cases ht
  | markSent _ | markFailed _ _ => cases hm
  | claim limit =>
    simp only [perform, claim]
    by_cases hl : limit ≤ 0 <;> simp [hl]
  | get id => rfl

section Entry

variable (hu : (store.rows.map (·.id)).Nodup)
  (hm : ∀ id, entry.marks id = true → id ∈ store.rows.map (·.id))

include hu hm

/-- What an entry does to a store in memory, which has the row that the entry marks, if any. -/
theorem perform_memory :
    ((Storage.memory store).perform entry).2 = .memory { store with
      rows := (store.rows.map fun row => (entry.markOn? row.id).elim row row.marked) ++
        entry.committed } := by
  cases ht : entry.isTransaction with
  | true =>
    rw [perform_transaction ht]
    simp [markOn?_of_mark?_eq_none (mark?_of_isTransaction ht)]
  | false =>
    rw [committed_of_not_isTransaction ht, List.append_nil]
    cases hmark : entry.mark? with
    | none =>
      rw [perform_other ht hmark]
      simp [markOn?_of_mark?_eq_none hmark]
    | some found =>
      obtain ⟨id, mark⟩ := found
      rw [perform_mark hmark hu (hm id (marks_iff.mpr ⟨mark, hmark⟩))]
      have hchange : ∀ row : Row, (if row.id = id then row.marked mark else row) =
          (entry.markOn? row.id).elim row row.marked := by
        intro row
        rw [markOn?_of_mark? hmark]
        split <;> rfl
      simp only [hchange]

/-- What a store in memory answers to a transaction, or to a mark of a row that is there. -/
theorem answer_memory (he : entry.isTransaction = true ∨ ∃ id, entry.marks id = true) :
    (Storage.memory store).record entry = ⟨entry, entry.answer⟩ := by
  unfold record
  cases hmark : entry.mark? with
  | none =>
    rcases he with ht | ⟨id, hid⟩
    · rw [perform_transaction ht]
    · rw [Entry.marks, markOn?_of_mark?_eq_none hmark] at hid
      cases hid
  | some found =>
    obtain ⟨id, mark⟩ := found
    rw [perform_mark hmark hu (hm id (marks_iff.mpr ⟨mark, hmark⟩))]

end Entry

/-- The store after a coherent script: the rows in the order of their commits, each after its own
marks. -/
theorem after_memory (h : Coherent store.rows script) :
    (Storage.memory store).after script =
      .memory { store with rows := markedRows store.rows script } := by
  induction script using List.reverseRecOn with
  | nil => simp [markedRows, committedRows, marksOn]
  | append_singleton script entry ih =>
    rw [after_concat, ih h.of_append, h.markedRows_concat]
    refine perform_memory ?_ ?_
    · rw [ids_markedRows]
      exact h.of_append.apart
    · rw [ids_markedRows]
      exact h.marked script entry [] rfl

/-- Transactions and marks are answered alike wherever they stand in a coherent script. -/
theorem history_memory (h : Coherent store.rows script) {chosen : Entry → Bool}
    (hc : ∀ entry, chosen entry = true →
      entry.isTransaction = true ∨ ∃ id, entry.marks id = true) :
    ((Storage.memory store).history script).filter (fun record => chosen record.toEntry) =
      (script.filter chosen).map fun entry => ⟨entry, entry.answer⟩ := by
  induction script using List.reverseRecOn with
  | nil => rfl
  | append_singleton script entry ih =>
    rw [history_concat, List.filter_append, List.filter_append, List.map_append, ih h.of_append,
      after_memory h.of_append]
    congr 1
    cases he : chosen entry with
    | false => simp [he, record]
    | true =>
      rw [answer_memory ?apart ?marked (hc entry he)]
      case apart =>
        rw [ids_markedRows]
        exact h.of_append.apart
      case marked =>
        rw [ids_markedRows]
        exact h.marked script entry [] rfl
      simp [he]

/-- Two coherent scripts that differ in how they interleave come to the same store and answer their
transactions and marks alike. A row's marks come to the number of its failures before the first mark
that it was sent, and to that mark or else the last failure. -/
theorem interleavings_agree (store : Store) {first second : List Entry} (hi : Interleaves first second)
    (hf : Coherent store.rows first) (hs : Coherent store.rows second) :
    (Storage.memory store).after first = (Storage.memory store).after second ∧
      ((Storage.memory store).history first).filter (·.isTransaction) =
        ((Storage.memory store).history second).filter (·.isTransaction) ∧
      (∀ id, ((Storage.memory store).history first).filter (·.marks id) =
        ((Storage.memory store).history second).filter (·.marks id)) ∧
      (Storage.memory store).after first = .memory { store with
        rows := (store.rows ++ committedRows first).map fun row =>
          row.concluded (failures (marksOn row.id first)) (ending? (marksOn row.id first)) } := by
  have hmarks : ∀ id, marksOn id first = marksOn id second := by
    intro id
    rw [marksOn_eq, hi.marks, ← marksOn_eq]
  have hrows : committedRows first = committedRows second := by
    rw [committedRows_eq, hi.transactions, ← committedRows_eq]
  refine ⟨?_, ?_, fun id => ?_, ?_⟩
  · rw [after_memory hf, after_memory hs]
    simp only [markedRows, hmarks, hrows]
  · have hchosen : ∀ entry : Entry, entry.isTransaction = true →
        entry.isTransaction = true ∨ ∃ id, entry.marks id = true := fun _ => .inl
    rw [history_memory hf hchosen, history_memory hs hchosen, hi.transactions]
  · have hchosen : ∀ entry : Entry, entry.marks id = true →
        entry.isTransaction = true ∨ ∃ id, entry.marks id = true := fun _ h => .inr ⟨id, h⟩
    rw [history_memory hf hchosen, history_memory hs hchosen, hi.marks]
  · rw [after_memory hf]
    simp only [markedRows, foldl_marked]

section TwoWriters

/-- The draft of an event about an employee. -/
def hiredDraft (id : Uuid) : Draft :=
  ⟨id, none, "employee", "7", "employee.created", "hr", [123, 125], .pending⟩

/-- Two events are committed, and each is attempted as soon as it is there. -/
def eager : List Entry :=
  [⟨.transact [hiredDraft (.reserved 1)] true, ⟨0, 0⟩, ⟨0, 0⟩⟩,
    ⟨.markFailed (.reserved 1) "refused", ⟨3, 0⟩, ⟨3, 0⟩⟩,
    ⟨.markSent (.reserved 1), ⟨5, 0⟩, ⟨5, 0⟩⟩,
    ⟨.markFailed (.reserved 1) "too late", ⟨7, 0⟩, ⟨7, 0⟩⟩,
    ⟨.transact [hiredDraft (.reserved 2)] true, ⟨1, 0⟩, ⟨1, 0⟩⟩,
    ⟨.markFailed (.reserved 2) "refused", ⟨4, 0⟩, ⟨4, 0⟩⟩,
    ⟨.markFailed (.reserved 2) "lost", ⟨6, 0⟩, ⟨6, 0⟩⟩]

/-- The same, with both events committed first. -/
def patient : List Entry :=
  [⟨.transact [hiredDraft (.reserved 1)] true, ⟨0, 0⟩, ⟨0, 0⟩⟩,
    ⟨.transact [hiredDraft (.reserved 2)] true, ⟨1, 0⟩, ⟨1, 0⟩⟩,
    ⟨.markFailed (.reserved 2) "refused", ⟨4, 0⟩, ⟨4, 0⟩⟩,
    ⟨.markFailed (.reserved 1) "refused", ⟨3, 0⟩, ⟨3, 0⟩⟩,
    ⟨.markSent (.reserved 1), ⟨5, 0⟩, ⟨5, 0⟩⟩,
    ⟨.markFailed (.reserved 2) "lost", ⟨6, 0⟩, ⟨6, 0⟩⟩,
    ⟨.markFailed (.reserved 1) "too late", ⟨7, 0⟩, ⟨7, 0⟩⟩]

/-- Both come to one row that is sent after one failure and one that failed twice. -/
theorem eager_agrees_patient :
    (Storage.memory (.empty none)).after eager = (Storage.memory (.empty none)).after patient ∧
      (Storage.memory (.empty none)).after eager = .memory { Store.empty none with rows := [
        (Row.ofDraft (hiredDraft (.reserved 1)) ⟨0, 0⟩).concluded 1 (some (.sent ⟨5, 0⟩)),
        (Row.ofDraft (hiredDraft (.reserved 2)) ⟨1, 0⟩).concluded 2
          (some (.failed "lost" ⟨6, 0⟩))] } := by
  have hinterleaves : Interleaves eager patient := by decide +kernel
  obtain ⟨hsame, -, -, hrows⟩ :=
    interleavings_agree (.empty none) hinterleaves (by decide +kernel) (by decide +kernel)
  exact ⟨hsame, hrows.trans (by decide +kernel)⟩

end TwoWriters

end Storage
end HrPipeline
