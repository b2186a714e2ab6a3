import HrPipeline.Calendar.Instant
import HrPipeline.Event
import HrPipeline.Outbox.Status
import HrPipeline.Text.Blank

/-!
# Outbox rows

The rows of the outbox after `SPEC_FULL.md` §3. An event is enlisted as a `Draft` and stored as a
`Row`. A row is claimable unless it is sent or waits for its next attempt. `Row.markSent` and
`Row.markFailed` record the result of an attempt; they leave a sent row as it is.
-/

namespace HrPipeline.Outbox

open HrPipeline.Calendar HrPipeline.Text

/-- An event about to be appended within a transaction. -/
structure Draft where
  id : Uuid
  requestId : Option String
  aggregateType : String
  aggregateId : String
  eventType : String
  topic : String
  payload : Bytes
  status : Status
deriving DecidableEq

/-- A stored event with the history of its attempts. -/
structure Row extends Draft where
  /-- Failed attempts so far. -/
  retryCount : Int
  /-- The instant before which the row is not claimed. -/
  nextRetryAt : Option Instant
  /-- The instant at which the row was recorded as sent. -/
  processedAt : Option Instant
  /-- Why the last attempt failed. -/
  errorMessage : Option String
  createdAt : Instant
  updatedAt : Instant
deriving DecidableEq

/-- Refuses a draft that names nothing, goes nowhere or says nothing. `SPEC_FULL.md` §4.1, `enlist`;
that its status is one of three is the type's business. -/
def Draft.check (draft : Draft) : Except OutboxError Unit :=
  if draft.id = Uuid.nil then .error (.invalidEvent "id is empty")
  else if isBlankText draft.topic then .error (.invalidEvent "topic is empty")
  else if draft.payload.isEmpty then .error (.invalidEvent "payload is empty")
  else .ok ()

/-- The pending draft of an event, under a new identifier. -/
def Draft.ofEvent {ε : Type} [DomainEvent ε] (id : Uuid) (event : ε) : Draft where
  id := id
  requestId := DomainEvent.requestId event
  aggregateType := DomainEvent.aggregateType ε
  aggregateId := DomainEvent.aggregateId event
  eventType := DomainEvent.recordedType event
  topic := DomainEvent.topic ε
  payload := DomainEvent.encode event
  status := .pending

/-- The row of a draft that is stored now. -/
def Row.ofDraft (draft : Draft) (now : Instant) : Row :=
  { draft with
    retryCount := 0, nextRetryAt := none, processedAt := none, errorMessage := none,
    createdAt := now, updatedAt := now }

/-- The greatest number of attempts that is counted. -/
def maxRetryCount : Int := 2147483647

/-- The most characters of an error that are kept. -/
def maxErrorLength : Nat := 500

/-- One attempt more, as far as attempts are counted. -/
def nextRetryCount (retryCount : Int) : Int := min (retryCount + 1) maxRetryCount

/-- The seconds to wait after a number of failed attempts: fifteen for each of the first ten.
`SPEC_FULL.md` §10.3, `retry_backoff`. -/
def backoffSeconds (retryCount : Int) : Int := 15 * min (max retryCount 0) 10

/-- The part of an error text that is kept. `SPEC_FULL.md` §10.3, `truncate_error`. -/
def truncateError (reason : String) : String :=
  String.ofList (reason.toList.take maxErrorLength)

namespace Row

/-- Whether a row may be claimed at an instant. -/
def isClaimable (row : Row) (now : Instant) : Bool :=
  row.status ≠ .sent && match row.nextRetryAt with
    | none => true
    | some due => due ≤ now

/-- Records that the message of a row was accepted. `SPEC_FULL.md` §4.1, `mark_sent`. -/
def markSent (now : Instant) (row : Row) : Row :=
  if row.status = .sent then row
  else { row with
    status := .sent, processedAt := some now, errorMessage := none, nextRetryAt := none,
    updatedAt := now }

/-- Records a failed attempt to send the message of a row. `SPEC_FULL.md` §4.1, `mark_failed`. -/
def markFailed (now : Instant) (reason : String) (row : Row) : Row :=
  if row.status = .sent then row
  else
    let count := nextRetryCount row.retryCount
    { row with
      status := .failed, retryCount := count, errorMessage := some (truncateError reason),
      nextRetryAt := some (now.addSeconds (backoffSeconds count)), updatedAt := now }

/-- Recording an acceptance keeps the identifier. -/
theorem markSent_id (now : Instant) (row : Row) : (row.markSent now).id = row.id := by
  unfold markSent
  split <;> rfl

/-- Recording a failure keeps the identifier. -/
theorem markFailed_id (now : Instant) (reason : String) (row : Row) :
    (row.markFailed now reason).id = row.id := by
  unfold markFailed
  split <;> rfl

/-- An acceptance is recorded whatever the row was before. -/
theorem markSent_status (now : Instant) (row : Row) : (row.markSent now).status = .sent := by
  unfold markSent
  split
  · assumption
  · rfl

/-- A sent row records no further acceptance. -/
theorem markSent_of_sent (now : Instant) (row : Row) (h : row.status = .sent) :
    row.markSent now = row := by
  simp [markSent, h]

/-- A sent row records no further failure. -/
theorem markFailed_of_sent (now : Instant) (reason : String) (row : Row) (h : row.status = .sent) :
    row.markFailed now reason = row := by
  simp [markFailed, h]

end Row
end HrPipeline.Outbox
