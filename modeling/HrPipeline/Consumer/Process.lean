import HrPipeline.Broker.Message
import HrPipeline.Consumer.Error
import HrPipeline.Notice

/-!
# Consuming messages

The contract of consumers in `SPEC_FULL.md` §4.3. A consumer decodes a message, applies the effect
of its event and then commits it. A message whose effect failed is rewound instead, so that it is
fetched again. A rewind that fails is kept pending, and nothing is fetched until it goes through; so
no message is passed over.

The consumer works through an `Intake`, which names what it calls; every call may change the state
`σ` behind it. `process` settles one message, and `processNext` fetches one before.
-/

namespace HrPipeline.Consumer

open HrPipeline.Broker

/-- A source of messages and the effect of their events, as a consumer calls them. -/
structure Intake (σ ε : Type) where
  /-- The next message; nothing while there is none. -/
  fetch : σ → Option (Except BrokerError Inbound) × σ
  commit : Inbound → σ → Except BrokerError Unit × σ
  rewind : Inbound → σ → Except BrokerError Unit × σ
  handle : ε → σ → Except EffectError Unit × σ
  /-- Whether a shutdown was requested. -/
  cancelled : σ → Bool
  note : Notice → σ → σ

/-- What happened to a message. `SPEC_FULL.md` §10.3, `Outcome`. -/
inductive Outcome where
  /-- The effect was applied. -/
  | committed
  /-- The effect was there already. -/
  | duplicate
  /-- The event is not for this consumer. -/
  | skipped
  /-- The message cannot be decoded. -/
  | poison
  /-- The effect failed; the message is fetched again. -/
  | retry
deriving DecidableEq

/-- The name of an outcome. -/
def Outcome.name : Outcome → String
  | .committed => "Committed"
  | .duplicate => "Duplicate"
  | .skipped => "Skipped"
  | .poison => "Poison"
  | .retry => "Retry"

variable {σ ε : Type} [DomainEvent ε]

/-- The event that a message carries, if it carries one. `SPEC_FULL.md` §4.3, step 2. -/
def decode? (ε : Type) [DomainEvent ε] (message : Inbound) : Option ε :=
  match message.payload with
  | none | some [] => none
  | some payload => (DomainEvent.decode payload).toOption

/-- Decodes a message and applies the effect of its event. `SPEC_FULL.md` §4.3, steps 2 to 4, and
§10.3 for events that are not handled. -/
def apply (intake : Intake σ ε) (message : Inbound) (s : σ) : Outcome × σ :=
  match decode? ε message with
  | none => (.poison, intake.note (.undecodable message.offset) s)
  | some event =>
    if DomainEvent.isHandled event then
      match intake.handle event s with
      | (.ok (), s) => (.committed, intake.note (.processed message.offset) s)
      | (.error (.duplicate _), s) => (.duplicate, intake.note (.alreadyApplied message.offset) s)
      | (.error (.failed _), s) => (.retry, intake.note (.handlerFailed message.offset) s)
    else (.skipped, intake.note (.ignored message.offset) s)

/-- Applies a message, then rewinds it if that failed and commits it otherwise. The result tells
which message is left to be rewound, `pending` being the one left before. `SPEC_FULL.md` §4.3,
step 4. -/
def process (intake : Intake σ ε) (message : Inbound) (pending : Option Inbound) (s : σ) :
    Outcome × Option Inbound × σ :=
  match apply intake message s with
  | (.retry, s) =>
    match intake.rewind message s with
    | (.ok (), s) => (.retry, pending, s)
    | (.error _, s) => (.retry, some message, intake.note .rewindFailed s)
  | (outcome, s) =>
    match intake.commit message s with
    | (.ok (), s) => (outcome, pending, s)
    | (.error _, s) => (outcome, pending, intake.note .commitFailed s)

/-- Rewinds the message that was left to be rewound, if there is one. -/
def settle (intake : Intake σ ε) (pending : Option Inbound) (s : σ) :
    Except BrokerError Unit × Option Inbound × σ :=
  match pending with
  | none => (.ok (), none, s)
  | some message =>
    match intake.rewind message s with
    | (.ok (), s) => (.ok (), none, intake.note (.rewound message.offset) s)
    | (.error error, s) => (.error error, some message, s)

/-- What came of an attempt to fetch and process a message. -/
inductive Receipt where
  /-- There is no message. -/
  | nothing
  | failed (error : BrokerError)
  | done (outcome : Outcome)
deriving DecidableEq

/-- Fetches one message and processes it. -/
def receive (intake : Intake σ ε) (pending : Option Inbound) (s : σ) :
    Receipt × Option Inbound × σ :=
  match intake.fetch s with
  | (none, s) => (.nothing, pending, s)
  | (some (.error error), s) => (.failed error, pending, s)
  | (some (.ok message), s) =>
    let (outcome, pending, s) := process intake message pending s
    (.done outcome, pending, s)

/-- Fetches and processes exactly one message, after rewinding the one that was left.
`SPEC_FULL.md` §10.3, `process_next`. -/
def processNext (intake : Intake σ ε) (pending : Option Inbound) (s : σ) :
    Receipt × Option Inbound × σ :=
  match settle intake pending s with
  | (.error error, pending, s) => (.failed error, pending, s)
  | (.ok (), pending, s) => receive intake pending s

end HrPipeline.Consumer
