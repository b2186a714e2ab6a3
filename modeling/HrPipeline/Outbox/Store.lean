import HrPipeline.Outbox.Row

/-!
# The outbox in memory

The outbox store of `SPEC_FULL.md` §4.1 as the one in memory of §10.3 keeps it. A store holds its
rows in the order in which they were committed. Drafts are staged in a transaction and become rows
when it commits, all at one instant. `Store.claim` selects the oldest claimable rows and changes
nothing; `Store.markSent` and `Store.markFailed` record the result of an attempt on the first row
with the identifier.

Every operation is one step. A commit reads the clock before its turn at the store comes, so that of
two commits at the same time the first one to be appended may carry the later reading. Commits that
overlap in this way are not described here.
-/

namespace HrPipeline.Outbox

open HrPipeline.Calendar

/-- Drafts that are staged and not yet visible. -/
structure Transaction where
  staged : List Draft
deriving DecidableEq

/-- A transaction without drafts. -/
def Transaction.empty : Transaction := ⟨[]⟩

/-- Stages a draft after checking it; a refused draft leaves the transaction as it was.
`SPEC_FULL.md` §4.1, `enlist`. -/
def Transaction.enlist (transaction : Transaction) (draft : Draft) :
    Except OutboxError Transaction := do
  draft.check
  .ok ⟨transaction.staged ++ [draft]⟩

/-- Rows in the order of their commits, and the number of failed attempts that parks a row. -/
structure Store where
  rows : List Row
  maxAttempts : Option Int
deriving DecidableEq

/-- The first row that satisfies a condition, changed, and the others as they were. -/
def updateFirst (condition : Row → Bool) (change : Row → Row) : List Row → Option (List Row)
  | [] => none
  | row :: rows =>
    if condition row then some (change row :: rows)
    else (updateFirst condition change rows).map (row :: ·)

/-- Whether a row is due at an instant and not parked by a ceiling on failed attempts.
`SPEC_FULL.md` §4.1, `claim_batch`, and §10.3, the retry ceiling. -/
def Row.isEligible (ceiling : Option Int) (now : Instant) (row : Row) : Bool :=
  row.isClaimable now && row.retryCount < ceiling.getD maxRetryCount

/-- Rows with the oldest first; rows of one instant keep their order. -/
def oldestFirst (rows : List Row) : List Row :=
  rows.mergeSort fun a b => a.createdAt ≤ b.createdAt

namespace Store

/-- A store without rows. -/
def empty (maxAttempts : Option Int) : Store := ⟨[], maxAttempts⟩

/-- Makes the drafts of a transaction rows of the store, in one step with the reading of the clock.
`SPEC_FULL.md` §10.3, `MemoryTx`. -/
def commit (store : Store) (transaction : Transaction) (now : Instant) : Store :=
  { store with rows := store.rows ++ transaction.staged.map fun draft => Row.ofDraft draft now }

/-- Up to `limit` eligible rows, the oldest first. `SPEC_FULL.md` §4.1, `claim_batch`. -/
def claim (store : Store) (limit : Int) (now : Instant) : List Row :=
  (oldestFirst (store.rows.filter (·.isEligible store.maxAttempts now))).take limit.toNat

/-- Changes the first row with an identifier. -/
def update (store : Store) (id : Uuid) (change : Row → Row) : Except OutboxError Store :=
  match updateFirst (·.id = id) change store.rows with
  | some rows => .ok { store with rows := rows }
  | none => .error (.notFound id)

/-- Records that the message of a row was accepted. `SPEC_FULL.md` §4.1, `mark_sent`. -/
def markSent (store : Store) (id : Uuid) (now : Instant) : Except OutboxError Store :=
  store.update id (·.markSent now)

/-- Records a failed attempt to send the message of a row. `SPEC_FULL.md` §4.1, `mark_failed`. -/
def markFailed (store : Store) (id : Uuid) (reason : String) (now : Instant) :
    Except OutboxError Store :=
  store.update id (·.markFailed now reason)

/-- The first row with an identifier. `SPEC_FULL.md` §10.3, `get`. -/
def get? (store : Store) (id : Uuid) : Option Row := store.rows.find? (·.id = id)

/-- Committing appends the staged drafts as rows. -/
theorem rows_commit (store : Store) (transaction : Transaction) (now : Instant) :
    (store.commit transaction now).rows =
      store.rows ++ transaction.staged.map fun draft => Row.ofDraft draft now := rfl

/-- A limit of zero or less claims nothing. -/
theorem claim_of_nonpos (store : Store) (limit : Int) (now : Instant) (h : limit ≤ 0) :
    store.claim limit now = [] := by
  rw [claim, Int.toNat_of_nonpos h, List.take_zero]

/-- Every claimed row is a row of the store that is eligible. -/
theorem mem_claim {store : Store} {limit : Int} {now : Instant} {row : Row}
    (h : row ∈ store.claim limit now) :
    row ∈ store.rows ∧ row.isEligible store.maxAttempts now = true := by
  have := List.mem_of_mem_take h
  rw [oldestFirst, List.mem_mergeSort] at this
  simpa using this

end Store
end HrPipeline.Outbox
