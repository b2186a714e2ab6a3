import HrPipeline.Database.Effects
import HrPipeline.Database.Outbox
import HrPipeline.Notice

/-!
# Storages of the outbox

The outbox is kept in memory or in a database; a database may also be out of reach, and then every
operation fails for want of a connection. A claim without a positive limit needs no storage at all.
-/

namespace HrPipeline

open HrPipeline.Calendar HrPipeline.Outbox

/-- Where the outbox is kept. -/
inductive Storage where
  | memory (store : Store)
  | database (db : Database) (mode : ClaimMode) (maxAttempts : Option Int)
  /-- A database to which no connection is to be had. -/
  | unreachable
deriving DecidableEq

/-- What is said of a connection that did not come about in time. -/
def connectionTimeout : String := "Timed out in bb8"

namespace Storage

/-- The error of an operation on a database out of reach. -/
def noConnection : OutboxError := .pool connectionTimeout

/-- The error of an effect on a database out of reach. -/
def noEffect : EffectError := .failed (.cause ("database pool: " ++ connectionTimeout))

/-- Up to `limit` claimable rows, with the storage after the claim and what it reports. -/
def claim (storage : Storage) (limit : Int) (now : Instant) :
    Except OutboxError (List Row × Storage × List Notice) :=
  if limit ≤ 0 then .ok ([], storage, [])
  else
    match storage with
    | .memory store => .ok (store.claim limit now, storage, [])
    | .database db mode maxAttempts => do
      let (rows, db) ← db.claim mode maxAttempts limit now
      .ok (rows, .database db mode maxAttempts, [.batchClaimed])
    | .unreachable => .error noConnection

/-- Records that the message of a row was accepted. -/
def markSent (storage : Storage) (id : Uuid) (now : Instant) : Except OutboxError Storage :=
  match storage with
  | .memory store => (store.markSent id now).map .memory
  | .database db mode maxAttempts => (db.markSent id now).map (.database · mode maxAttempts)
  | .unreachable => .error noConnection

/-- Records a failed attempt to send the message of a row. -/
def markFailed (storage : Storage) (id : Uuid) (reason : String) (now : Instant) :
    Except OutboxError Storage :=
  match storage with
  | .memory store => (store.markFailed id reason now).map .memory
  | .database db mode maxAttempts =>
    (db.markFailed id reason now).map (.database · mode maxAttempts)
  | .unreachable => .error noConnection

/-- The row with an identifier. -/
def get? (storage : Storage) (id : Uuid) : Except OutboxError (Option Row) :=
  match storage with
  | .memory store => .ok (store.get? id)
  | .database db _ _ => .ok (db.outboxRow? id)
  | .unreachable => .error noConnection

/-- All rows in the order of insertion. -/
def rows : Storage → List Row
  | .memory store => store.rows
  | .database db _ _ => db.outbox
  | .unreachable => []

/-- The tables of a database within reach. -/
def tables? : Storage → Option Database
  | .database db _ _ => some db
  | .memory _ | .unreachable => none

/-- The storage with other tables, if it is a database within reach. -/
def withTables (db : Database) : Storage → Storage
  | .database _ mode maxAttempts => .database db mode maxAttempts
  | storage => storage

end Storage
end HrPipeline
