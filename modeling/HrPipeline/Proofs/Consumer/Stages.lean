import HrPipeline.Proofs.Consumer.Calls
import Mathlib.Logic.Function.Iterate

/-!
# The stages of a consumer

Consumers of one group work at once and may stop between any two of their calls, so `processNext` is
taken apart into its calls. A `Stage` is where a consumer stands, and `advance` takes it one call
further. A consumer that is left alone gets from `Stage.idle` to the result of `processNext`.
-/

namespace HrPipeline.Consumer

open HrPipeline.Broker

/-- Where a consumer stands. -/
inductive Stage where
  /-- Before a message is asked for. -/
  | idle
  /-- After the message that was left to be rewound is rewound, if there was one. -/
  | ready
  /-- With a message whose effect is yet to be applied. -/
  | holding (message : Inbound)
  /-- With a message that is yet to be rewound or committed. -/
  | closing (message : Inbound) (outcome : Outcome)
  /-- At the end. -/
  | finished (receipt : Receipt)

namespace Stage

/-- The message that a consumer has in hand. -/
def message? : Stage → Option Inbound
  | holding message | closing message _ => some message
  | idle | ready | finished _ => none

/-- What has just come of a message. -/
def outcome? : Stage → Option (Inbound × Outcome)
  | closing message outcome => some (message, outcome)
  | idle | ready | holding _ | finished _ => none

end Stage

section Advance

variable {σ ε : Type} [DomainEvent ε] (intake : Intake σ ε)

/-- Rewinds a message after a retry, and commits it otherwise. The result tells which message is
left to be rewound. -/
def close (message : Inbound) (outcome : Outcome) (pending : Option Inbound) (s : σ) :
    Option Inbound × σ :=
  if outcome = .retry then
    match intake.rewind message s with
    | (.ok (), s) => (pending, s)
    | (.error _, s) => (some message, intake.note .rewindFailed s)
  else
    match intake.commit message s with
    | (.ok (), s) => (pending, s)
    | (.error _, s) => (pending, intake.note .commitFailed s)

/-- Takes a consumer one call further. -/
def advance : Stage → Option Inbound → σ → Stage × Option Inbound × σ
  | .idle, pending, s =>
    match settle intake pending s with
    | (.error error, pending, s) => (.finished (.failed error), pending, s)
    | (.ok (), pending, s) => (.ready, pending, s)
  | .ready, pending, s =>
    match intake.fetch s with
    | (none, s) => (.finished .nothing, pending, s)
    | (some (.error error), s) => (.finished (.failed error), pending, s)
    | (some (.ok message), s) => (.holding message, pending, s)
  | .holding message, pending, s =>
    let (outcome, s) := apply intake message s
    (.closing message outcome, pending, s)
  | .closing message outcome, pending, s =>
    let (pending, s) := close intake message outcome pending s
    (.finished (.done outcome), pending, s)
  | .finished _, pending, s => (.idle, pending, s)

/-- Processing a message is applying it and closing it. -/
theorem process_eq_close (message : Inbound) (pending : Option Inbound) (s : σ) :
    process intake message pending s =
      let (outcome, s) := apply intake message s
      (outcome, close intake message outcome pending s) := by
  rw [process_eq]
  rcases apply intake message s with ⟨outcome, s⟩
  unfold close
  by_cases h : outcome = .retry
  · simp only [if_pos h]
    rcases intake.rewind message s with ⟨_ | _, s⟩ <;> rfl
  · simp only [if_neg h]
    rcases intake.commit message s with ⟨_ | _, s⟩ <;> rfl

/-- Takes a consumer with the state behind it one call further. -/
def next (all : Stage × Option Inbound × σ) : Stage × Option Inbound × σ :=
  advance intake all.1 all.2.1 all.2.2

/-- Left alone, a consumer that is ready comes to the result of `receive`. -/
private theorem exists_iterate_receive (pending : Option Inbound) (s : σ) :
    ∃ calls, (next intake)^[calls] (.ready, pending, s) =
      (.finished (receive intake pending s).1, (receive intake pending s).2) := by
  rcases hf : intake.fetch s with ⟨_ | error | message, s'⟩
  · refine ⟨1, ?_⟩
    simp [next, advance, receive, hf]
  · refine ⟨1, ?_⟩
    simp [next, advance, receive, hf]
  · -- The message takes three calls: it is fetched, applied and closed.
    refine ⟨3, ?_⟩
    simp [next, advance, receive, hf, process_eq_close, Function.iterate_succ]

/-- Left alone, a consumer comes to the result of `processNext`. -/
theorem exists_iterate_processNext (pending : Option Inbound) (s : σ) :
    ∃ calls, (next intake)^[calls] (.idle, pending, s) =
      (.finished (processNext intake pending s).1, (processNext intake pending s).2) := by
  rcases hs : settle intake pending s with ⟨error | ok, pending', s'⟩
  · refine ⟨1, ?_⟩
    simp [next, advance, processNext, hs]
  · obtain ⟨calls, hcalls⟩ := exists_iterate_receive intake pending' s'
    refine ⟨calls + 1, ?_⟩
    have hone : next intake (.idle, pending, s) = (.ready, pending', s') := by
      simp [next, advance, hs]
    rw [Function.iterate_succ_apply, hone, hcalls]
    simp [processNext, hs]

end Advance

end HrPipeline.Consumer
