import HrPipeline.Consumer.Process

/-!
# The loop of a consumer

A consumer repeats rounds until it is told to shut down. It heeds that before a fetch and between
two rounds, but never while it processes a message. What passes between two rounds is not its own:
`between` gives the state after that, or nothing if the consumer is told to shut down meanwhile.
-/

namespace HrPipeline.Consumer

open HrPipeline.Broker

variable {σ ε : Type} [DomainEvent ε]

/-- How the loop goes on after a round. -/
inductive Pace where
  /-- At once. -/
  | again
  /-- After the retry delay. -/
  | pause
  /-- When there is a message. -/
  | await
  /-- Not at all. -/
  | stop
deriving DecidableEq

/-- One round of the loop. -/
def turn (intake : Intake σ ε) (pending : Option Inbound) (s : σ) : Pace × Option Inbound × σ :=
  match settle intake pending s with
  | (.error _, pending, s) => (.pause, pending, intake.note .stillNotRewound s)
  | (.ok (), pending, s) =>
    if intake.cancelled s then (.stop, pending, s)
    else
      match receive intake pending s with
      | (.nothing, pending, s) => (.await, pending, s)
      | (.failed _, pending, s) => (.pause, pending, intake.note .receiveFailed s)
      | (.done .retry, pending, s) => (.pause, pending, s)
      | (.done _, pending, s) => (.again, pending, s)

/-- Rounds until the shutdown, at most a number of them. -/
def loop (intake : Intake σ ε) (between : Pace → σ → Option σ) :
    Nat → Option Inbound → σ → Option Inbound × σ
  | 0, pending, s => (pending, s)
  | rounds + 1, pending, s =>
    match turn intake pending s with
    | (.stop, pending, s) => (pending, s)
    | (pace, pending, s) =>
      match between pace s with
      | none => (pending, s)
      | some s => loop intake between rounds pending s

/-- The work of a consumer from its start to its shutdown. -/
def run (intake : Intake σ ε) (between : Pace → σ → Option σ) (rounds : Nat)
    (pending : Option Inbound) (s : σ) : Option Inbound × σ :=
  let (pending, s) := loop intake between rounds pending (intake.note .consumerStarted s)
  (pending, intake.note .consumerEnded s)

end HrPipeline.Consumer
