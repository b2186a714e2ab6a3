import HrPipeline.Database.Tables
import HrPipeline.Outbox.Store

/-!
# The outbox in the database

The outbox store of `SPEC_FULL.md` §4.1 as a table with its identifiers as keys. A claim either
reads the oldest eligible rows, or also leases them: then their next attempt is put off to the end
of the lease, so that other publishers pass them by. The database keeps whole microseconds, while a
leased claim tells the exact end of the lease. A statement at a reading of the clock that the
database cannot store is refused.
-/

namespace HrPipeline

open HrPipeline.Calendar HrPipeline.Outbox

/-- How rows are claimed. `SPEC_FULL.md` §10.3, the claim modes. -/
inductive ClaimMode where
  /-- By reading alone, for a single publisher. -/
  | shared
  /-- By a lease of so many nanoseconds. -/
  | skipLocked (lease : Nat)
deriving DecidableEq

namespace Database

/-- The columns of a draft as the table stores them. -/
def storedDraft (draft : Draft) : Except DatabaseError Draft := do
  checkTexts <|
    draft.requestId.toList ++
      [draft.aggregateType, draft.aggregateId, draft.eventType, draft.topic]
  let requestId ← match draft.requestId with
    | none => .ok none
    | some s => (fit 128 s).map some
  let aggregateType ← fit 64 draft.aggregateType
  let aggregateId ← fit 128 draft.aggregateId
  let eventType ← fit 128 draft.eventType
  let topic ← fit 255 draft.topic
  .ok { draft with requestId, aggregateType, aggregateId, eventType, topic }

/-- Appends a checked draft to the outbox; `now` is the time of the database's transaction.
`SPEC_FULL.md` §4.1, `enlist`. -/
def enlist (db : Database) (now : Instant) (draft : Draft) : Except OutboxError Database := do
  draft.check
  let stored ← (storedDraft draft).mapError .database
  if db.outbox.any (·.id = stored.id) then
    .error (.database (refuseDuplicate "outbox_events_pkey"))
  else .ok { db with outbox := db.outbox ++ [Row.ofDraft stored now.toMicros] }

/-- Appends the event under a new identifier. `SPEC_FULL.md` §4.4, `publish_in_tx`. -/
def publish {ε : Type} [DomainEvent ε] (db : Database) (now : Instant) (id : Uuid) (event : ε) :
    Except OutboxError Database :=
  db.enlist now (Draft.ofEvent id event)

/-- Up to `limit` eligible rows, the oldest first. `SPEC_FULL.md` §4.1, `claim_batch`. -/
def eligible (db : Database) (ceiling : Option Int) (limit : Int) (now : Instant) : List Row :=
  (oldestFirst (db.outbox.filter (·.isEligible ceiling now.toMicros))).take limit.toNat

/-- The longest lease, in nanoseconds: it is counted in whole milliseconds of 63 bits. -/
def maxLease : Nat := nanosPerMilli * (Nat.pow 2 63 - 1)

/-- The rows with a change to those of certain identifiers. -/
def changeRows (ids : List Uuid) (change : Row → Row) (rows : List Row) : List Row :=
  rows.map fun row => if row.id ∈ ids then change row else row

/-- Claims up to `limit` rows by a lease of so many nanoseconds, which ends before the clock does
(`Calendar/Instant`). `SPEC_FULL.md` §10.3, `SkipLocked`. -/
def claimFor (db : Database) (lease : Nat) (ceiling : Option Int) (limit : Int)
    (now : Instant) : Except OutboxError (List Row × Database) :=
  let rows := db.eligible ceiling limit now
  if maxLease < lease then
    .error (.invalidEvent "Source duration value is out of range for the target type")
  else if ¬ Accepts now then .error (.database outOfRange)
  else
    let leaseEnd := now.add lease
    let leased := fun row : Row =>
      { row with nextRetryAt := some leaseEnd.toMicros, updatedAt := now.toMicros }
    .ok (rows.map fun row => { row with nextRetryAt := some leaseEnd },
      { db with outbox := changeRows (rows.map (·.id)) leased db.outbox })

/-- Claims up to `limit` rows in a mode. -/
def claim (db : Database) (mode : ClaimMode) (ceiling : Option Int) (limit : Int)
    (now : Instant) : Except OutboxError (List Row × Database) :=
  match mode with
  | .shared =>
    if Accepts now then .ok (db.eligible ceiling limit now, db)
    else .error (.database outOfRange)
  | .skipLocked lease => db.claimFor lease ceiling limit now

/-- The row with an identifier. `SPEC_FULL.md` §10.3, `get`. -/
def outboxRow? (db : Database) (id : Uuid) : Option Row := db.outbox.find? (·.id = id)

/-- Changes the row with an identifier. -/
def updateRow (db : Database) (id : Uuid) (change : Row → Row) : Except OutboxError Database :=
  match updateFirst (·.id = id) change db.outbox with
  | some rows => .ok { db with outbox := rows }
  | none => .error (.notFound id)

/-- A row whose instants are cut to what the database stores. -/
def storedRow (row : Row) : Row :=
  { row with
    nextRetryAt := row.nextRetryAt.map (·.toMicros),
    processedAt := row.processedAt.map (·.toMicros),
    updatedAt := row.updatedAt.toMicros }

/-- Records that the message of a row was accepted. `SPEC_FULL.md` §4.1, `mark_sent`. -/
def markSent (db : Database) (id : Uuid) (now : Instant) : Except OutboxError Database :=
  match db.outboxRow? id with
  | none => .error (.notFound id)
  | some row =>
    if row.status = .sent then .ok db
    else if Accepts now then db.updateRow id fun row => storedRow (row.markSent now)
    else .error (.database outOfRange)

/-- Records a failed attempt to send the message of a row. `SPEC_FULL.md` §4.1, `mark_failed`. -/
def markFailed (db : Database) (id : Uuid) (reason : String) (now : Instant) :
    Except OutboxError Database :=
  match db.outboxRow? id with
  | none => .error (.notFound id)
  | some row =>
    if row.status = .sent then .ok db
    else do
      (checkTexts [truncateError reason]).mapError .database
      if Accepts now then db.updateRow id fun row => storedRow (row.markFailed now reason)
      else .error (.database outOfRange)

end Database
end HrPipeline
