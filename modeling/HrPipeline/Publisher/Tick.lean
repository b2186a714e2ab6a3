import HrPipeline.Broker.Message
import HrPipeline.Notice

/-!
# A tick of the publisher

The tick of `SPEC_FULL.md` §4.2. It claims one batch and publishes its rows in order. For each row
the message is sent and the result recorded, as sent or as failed, whatever happens to the other
rows. A shutdown request stops the batch between two rows, never within one.

The publisher works through an `Outlet`, which names what it calls; every call may change the state
`σ` behind it. `publishRow` is the sending and the recording of one row, `drain` runs it over a
batch, and `tick` claims the batch.
-/

namespace HrPipeline.Publisher

open HrPipeline.Broker HrPipeline.Outbox

/-- The store and the broker as the publisher calls them. -/
structure Outlet (σ : Type) where
  /-- Up to a number of claimable rows. -/
  claim : Int → σ → Except OutboxError (List Row) × σ
  send : Outbound → σ → Except BrokerError Unit × σ
  markSent : Uuid → σ → Except OutboxError Unit × σ
  markFailed : Uuid → String → σ → Except OutboxError Unit × σ
  /-- Whether a shutdown was requested. -/
  cancelled : σ → Bool
  note : Notice → σ → σ

/-- What a tick did. `SPEC_FULL.md` §10.3, `TickReport`. -/
structure Report where
  claimed : Nat
  published : Nat
  failed : Nat
  /-- Messages that were accepted and not recorded as sent; they will be sent again. -/
  markSentErrors : Nat
  /-- Whether a shutdown request stopped the tick early. -/
  interrupted : Bool
deriving DecidableEq

/-- The report of a tick that did nothing. -/
def Report.empty : Report := ⟨0, 0, 0, 0, false⟩

variable {σ : Type}

/-- Whether a number of failed attempts reaches the ceiling. -/
def reachesCeiling (maxAttempts : Option Int) (attempts : Int) : Bool :=
  match maxAttempts with
  | some ceiling => ceiling ≤ attempts
  | none => false

/-- Records the result of sending the message of a row. `SPEC_FULL.md` §4.2, steps 2b and 2c. -/
def record (outlet : Outlet σ) (maxAttempts : Option Int) (row : Row) (report : Report) :
    Except BrokerError Unit → σ → Report × σ
  | .ok (), s =>
    match outlet.markSent row.id s with
    | (.ok (), s) =>
      ({ report with published := report.published + 1 }, outlet.note (.published row.id) s)
    | (.error _, s) =>
      ({ report with markSentErrors := report.markSentErrors + 1 },
        outlet.note (.notRecordedAsSent row.id) s)
  | .error error, s =>
    let report := { report with failed := report.failed + 1 }
    match outlet.markFailed row.id error.message s with
    | (.error _, s) => (report, outlet.note (.failureNotRecorded row.id) s)
    | (.ok (), s) =>
      if reachesCeiling maxAttempts (nextRetryCount row.retryCount) then
        (report, outlet.note (.parked row.id) s)
      else (report, outlet.note (.publishFailed row.id) s)

/-- Sends the message of a row and records the result. `SPEC_FULL.md` §4.2, step 2. -/
def publishRow (outlet : Outlet σ) (maxAttempts : Option Int) (row : Row) (report : Report)
    (s : σ) : Report × σ :=
  let (outcome, s) := outlet.send (Outbound.ofRow row) s
  record outlet maxAttempts row report outcome s

/-- Publishes the rows of a batch in order until a shutdown is requested. `SPEC_FULL.md` §4.2,
cancellation. -/
def drain (outlet : Outlet σ) (maxAttempts : Option Int) : List Row → Report → σ → Report × σ
  | [], report, s => (report, s)
  | row :: rows, report, s =>
    if outlet.cancelled s then ({ report with interrupted := true }, s)
    else
      let (report, s) := publishRow outlet maxAttempts row report s
      drain outlet maxAttempts rows report s

/-- Claims one batch and publishes it. A claim that fails ends the tick. `SPEC_FULL.md` §4.2 and
§7. -/
def tick (outlet : Outlet σ) (maxAttempts : Option Int) (batchSize : Int) (s : σ) :
    Except OutboxError Report × σ :=
  if outlet.cancelled s then (.ok { Report.empty with interrupted := true }, s)
  else
    match outlet.claim batchSize s with
    | (.error error, s) => (.error error, s)
    | (.ok batch, s) =>
      let (report, s) := drain outlet maxAttempts batch
        { Report.empty with claimed := batch.length } s
      (.ok report, s)

/-- The notice about a finished tick. -/
def tickNotice : Except OutboxError Report → Notice
  | .ok report => if 0 < report.claimed then .tickFinished else .outboxEmpty
  | .error _ => .tickFailed

/-- A tick within the publisher's loop, which reports how it went. -/
def loopTick (outlet : Outlet σ) (maxAttempts : Option Int) (batchSize : Int) (s : σ) : σ :=
  let (result, s) := tick outlet maxAttempts batchSize s
  outlet.note (tickNotice result) s

end HrPipeline.Publisher
