import HrPipeline.Proofs.Outbox.Marks
import HrPipeline.Storage

/-!
# Scripts of an outbox

A script is a list of operations on a storage, each at a reading of the clock: transactions one
after the other, claims, records of attempts and look-ups. `Storage.perform` answers one operation
and `Storage.play` a script; the history of a script is its entries with their answers.

A transaction enlists its drafts one by one, whatever becomes of each. A draft that is refused by
its check leaves the transaction as it was. A statement that the database refuses makes the
transaction fail: the database ignores the statements after it, and nothing is committed.
-/

namespace HrPipeline

open HrPipeline.Calendar HrPipeline.Outbox

namespace Outbox

/-- What is asked of a storage. -/
inductive Operation where
  /-- Enlists drafts in a transaction that is then committed or rolled back. -/
  | transact (drafts : List Draft) (commits : Bool)
  | claim (limit : Int)
  | markSent (id : Uuid)
  | markFailed (id : Uuid) (reason : String)
  | get (id : Uuid)
deriving DecidableEq

/-- An operation with the time at which it is performed. -/
structure Entry where
  operation : Operation
  /-- The reading of the clock; for a transaction, when it commits. -/
  now : Instant
  /-- The time of the database's transaction. -/
  databaseNow : Instant
deriving DecidableEq

/-- What an operation is answered. -/
inductive Answer where
  /-- What each draft of a transaction was answered, and whether the transaction took effect. -/
  | enlisted (results : List (Except OutboxError Unit)) (committed : Bool)
  | claimed (result : Except OutboxError (List Row))
  | recorded (result : Except OutboxError Unit)
  | found (result : Except OutboxError (Option Row))

/-- An entry of a script with its answer. -/
structure Record extends Entry where
  answer : Answer

/-- Enlists drafts one by one; gives what each is answered. -/
def enlistEach {σ : Type} (enlist : Draft → σ → Except OutboxError Unit × σ) :
    List Draft → σ → List (Except OutboxError Unit) × σ
  | [], state => ([], state)
  | draft :: drafts, state =>
    let (result, state) := enlist draft state
    let (results, state) := enlistEach enlist drafts state
    (result :: results, state)

/-- Stages a draft in a transaction in memory, which stays open if the draft is refused. -/
def Transaction.attempt (draft : Draft) (transaction : Transaction) :
    Except OutboxError Unit × Transaction :=
  match transaction.enlist draft with
  | .ok staged => (.ok (), staged)
  | .error error => (.error error, transaction)

/-- What the database says of a statement in a transaction that has failed. -/
def ignored : OutboxError :=
  .database (Database.refuse
    "current transaction is aborted, commands ignored until end of transaction block")

/-- Appends a draft in a transaction of the database, or in one that has failed. -/
def attemptInsert (now : Instant) (draft : Draft) (opened : Option Database) :
    Except OutboxError Unit × Option Database :=
  match draft.check, opened with
  | .error error, _ => (.error error, opened)
  | .ok _, none => (.error ignored, none)
  | .ok _, some db =>
    match db.enlist now draft with
    | .ok db => (.ok (), some db)
    | .error error => (.error error, none)

/-- Whether the check of a draft lets it pass. -/
def Draft.isAccepted (draft : Draft) : Bool := draft.check.isOk

/-- The drafts of an operation that pass their checks. -/
def Operation.accepted : Operation → List Draft
  | transact drafts _ => drafts.filter (·.isAccepted)
  | claim _ | markSent _ | markFailed _ _ | get _ => []

end Outbox

/-- The nanoseconds for which a mode leases rows, if it does. -/
def ClaimMode.lease? : ClaimMode → Option Nat
  | .shared => none
  | .skipLocked lease => some lease

namespace Storage

/-- Enlists drafts in one transaction and commits it or rolls it back. A storage out of reach opens
no transaction. -/
def transact (drafts : List Draft) (commits : Bool) (now databaseNow : Instant) :
    Storage → Answer × Storage
  | .memory store =>
    let (results, transaction) := enlistEach Transaction.attempt drafts .empty
    (.enlisted results commits,
      .memory (if commits then store.commit transaction now else store))
  | .database db mode maxAttempts =>
    let (results, opened) := enlistEach (attemptInsert databaseNow) drafts (some db)
    (.enlisted results (commits && opened.isSome),
      .database (if commits then opened.getD db else db) mode maxAttempts)
  | .unreachable => (.enlisted [] false, .unreachable)

/-- Answers an operation; gives the storage after it. -/
def perform (entry : Entry) (storage : Storage) : Answer × Storage :=
  match entry.operation with
  | .transact drafts commits => storage.transact drafts commits entry.now entry.databaseNow
  | .claim limit =>
    match storage.claim limit entry.now with
    | .ok (rows, after, _) => (.claimed (.ok rows), after)
    | .error error => (.claimed (.error error), storage)
  | .markSent id =>
    match storage.markSent id entry.now with
    | .ok after => (.recorded (.ok ()), after)
    | .error error => (.recorded (.error error), storage)
  | .markFailed id reason =>
    match storage.markFailed id reason entry.now with
    | .ok after => (.recorded (.ok ()), after)
    | .error error => (.recorded (.error error), storage)
  | .get id => (.found (storage.get? id), storage)

/-- Answers the entries of a script in order; gives its history and the storage after it. -/
def play : List Entry → Storage → List Record × Storage
  | [], storage => ([], storage)
  | entry :: script, storage =>
    let (answer, after) := storage.perform entry
    let (records, last) := play script after
    (⟨entry, answer⟩ :: records, last)

/-- The entries of a script with their answers. -/
def history (storage : Storage) (script : List Entry) : List Record := (storage.play script).1

/-- The storage after a script. -/
def after (storage : Storage) (script : List Entry) : Storage := (storage.play script).2

/-- An entry with the answer of a storage. -/
def record (storage : Storage) (entry : Entry) : Record := ⟨entry, (storage.perform entry).1⟩

/-- The nanoseconds for which a claim leases rows, if it does. -/
def lease? : Storage → Option Nat
  | .database _ mode _ => mode.lease?
  | .memory _ | .unreachable => none

/-- The storage stores an instant as it is: always in memory, in a database if it is a whole
microsecond that the database can store. -/
def KeepsInstant (t : Instant) : Storage → Prop
  | .database _ _ _ => Database.Exact t
  | .memory _ | .unreachable => True

/-- The storage answers at a reading of the clock: always in memory, a database if it can store the
reading. -/
def Accepts (now : Instant) : Storage → Prop
  | .database _ _ _ => Database.Accepts now
  | .memory _ | .unreachable => True

variable {storage : Storage}

@[simp] theorem after_nil : storage.after [] = storage := rfl

@[simp] theorem history_nil : storage.history [] = [] := rfl

theorem after_cons (entry : Entry) (script : List Entry) :
    storage.after (entry :: script) = (storage.perform entry).2.after script := rfl

theorem history_cons (entry : Entry) (script : List Entry) :
    storage.history (entry :: script) =
      storage.record entry :: (storage.perform entry).2.history script := rfl

theorem after_append (script rest : List Entry) :
    storage.after (script ++ rest) = (storage.after script).after rest := by
  induction script generalizing storage with
  | nil => rfl
  | cons entry script ih => exact ih

theorem history_append (script rest : List Entry) :
    storage.history (script ++ rest) =
      storage.history script ++ (storage.after script).history rest := by
  induction script generalizing storage with
  | nil => rfl
  | cons entry script ih =>
    rw [List.cons_append, history_cons, history_cons, List.cons_append, after_cons, ih]

/-- A record of a history is that of an entry of the script. -/
theorem exists_entry_of_history {script : List Entry} {before later : List Record} {record : Record}
    (h : storage.history script = before ++ record :: later) :
    ∃ earlier entry rest, script = earlier ++ entry :: rest ∧
      record = (storage.after earlier).record entry := by
  induction before generalizing storage script with
  | nil =>
    cases script with
    | nil => cases h
    | cons entry script =>
      rw [history_cons] at h
      exact ⟨[], entry, script, rfl, (List.cons.inj h).1.symm⟩
  | cons first before ih =>
    cases script with
    | nil => cases h
    | cons entry script =>
      rw [history_cons] at h
      obtain ⟨earlier, other, rest, rfl, hrecord⟩ := ih (List.cons.inj h).2
      exact ⟨entry :: earlier, other, rest, rfl, hrecord⟩

/-- The storage after a script with one entry more. -/
theorem after_concat (script : List Entry) (entry : Entry) :
    storage.after (script ++ [entry]) = ((storage.after script).perform entry).2 :=
  after_append script [entry]

/-- The history of a script with one entry more. -/
theorem history_concat (script : List Entry) (entry : Entry) :
    storage.history (script ++ [entry]) =
      storage.history script ++ [(storage.after script).record entry] :=
  history_append script [entry]

/-- A claim on a store in memory is answered with what the store selects, and changes nothing. -/
theorem perform_claim_memory (store : Store) (limit : Int) (now databaseNow : Instant) :
    (Storage.memory store).perform ⟨.claim limit, now, databaseNow⟩ =
      (.claimed (.ok (store.claim limit now)), .memory store) := by
  by_cases hl : limit ≤ 0
  · simp only [perform, Storage.claim, if_pos hl, Store.claim_of_nonpos store limit now hl]
  · simp only [perform, Storage.claim, if_neg hl]

end Storage
end HrPipeline
