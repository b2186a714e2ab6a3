import HrPipeline.Consumer.Process

/-!
# The calls of a consumer

An intake can be made to record what is called on it. A `Visit` is one call of `processNext` with
the calls that it made, and `visits` are successive ones. Recording changes no result, so that
`visits` tells what a consumer does that fetches and processes messages one after the other. For
`Maps` and `Preserves` carry over from the calls of an intake to all that is done with them.
-/

namespace HrPipeline.Consumer

open HrPipeline.Broker

/-- A call of a consumer on its source or its handler, with its result. -/
inductive Call (ε : Type) where
  | fetch (result : Option (Except BrokerError Inbound))
  | handle (event : ε) (result : Except EffectError Unit)
  | commit (message : Inbound) (result : Except BrokerError Unit)
  | rewind (message : Inbound) (result : Except BrokerError Unit)

/-- A state behind an intake with the calls made so far. -/
structure Recorded (σ ε : Type) where
  state : σ
  calls : List (Call ε)

/-- Adds a call to the record. -/
def Recorded.after {σ ε α : Type} (recorded : Recorded σ ε) (call : α → Call ε) (result : α × σ) :
    α × Recorded σ ε :=
  (result.1, ⟨result.2, recorded.calls ++ [call result.1]⟩)

/-- An intake that records the calls made on it. -/
def Intake.recorded {σ ε : Type} (intake : Intake σ ε) : Intake (Recorded σ ε) ε where
  fetch r := r.after .fetch (intake.fetch r.state)
  commit message r := r.after (.commit message) (intake.commit message r.state)
  rewind message r := r.after (.rewind message) (intake.rewind message r.state)
  handle event r := r.after (.handle event) (intake.handle event r.state)
  cancelled r := intake.cancelled r.state
  note notice r := { r with state := intake.note notice r.state }

section Recording

variable {σ ε : Type} (intake : Intake σ ε) (message : Inbound) (event : ε) (notice : Notice)
  (r : Recorded σ ε)

@[simp] theorem recorded_fetch :
    intake.recorded.fetch r = r.after .fetch (intake.fetch r.state) := rfl

@[simp] theorem recorded_commit :
    intake.recorded.commit message r =
      r.after (.commit message) (intake.commit message r.state) := rfl

@[simp] theorem recorded_rewind :
    intake.recorded.rewind message r =
      r.after (.rewind message) (intake.rewind message r.state) := rfl

@[simp] theorem recorded_handle :
    intake.recorded.handle event r = r.after (.handle event) (intake.handle event r.state) := rfl

@[simp] theorem recorded_note :
    intake.recorded.note notice r = { r with state := intake.note notice r.state } := rfl

end Recording

/-- One call of `processNext`: the calls it made and what came of it. -/
structure Visit (ε : Type) where
  calls : List (Call ε)
  receipt : Receipt

namespace Visit

variable {ε : Type}

/-- The message that a call delivered. -/
def delivered? : Call ε → Option Inbound
  | .fetch (some (.ok message)) => some message
  | _ => none

/-- The message that a call was to commit. -/
def committed? : Call ε → Option Inbound
  | .commit message _ => some message
  | _ => none

/-- The message that was processed. -/
def message? (visit : Visit ε) : Option Inbound := visit.calls.findSome? delivered?

/-- The messages for which a commit was called. -/
def commits (visit : Visit ε) : List Inbound := visit.calls.filterMap committed?

/-- The message that was settled: processed with an outcome other than a retry. -/
def settled? (visit : Visit ε) : Option Inbound :=
  match visit.receipt with
  | .done outcome => if outcome = .retry then none else visit.message?
  | .nothing | .failed _ => none

end Visit

/-- A map between the states behind two intakes that carries every call over. -/
structure Maps {σ τ ε : Type} (f : σ → τ) (intake : Intake σ ε) (image : Intake τ ε) : Prop where
  fetch : ∀ s, image.fetch (f s) = (intake.fetch s).map id f
  commit : ∀ message s, image.commit message (f s) = (intake.commit message s).map id f
  rewind : ∀ message s, image.rewind message (f s) = (intake.rewind message s).map id f
  handle : ∀ event s, image.handle event (f s) = (intake.handle event s).map id f
  note : ∀ notice s, image.note notice (f s) = f (intake.note notice s)

/-- Recording changes nothing about the calls. -/
theorem maps_recorded {σ ε : Type} (intake : Intake σ ε) :
    Maps Recorded.state intake.recorded intake where
  fetch _ := rfl
  commit _ _ := rfl
  rewind _ _ := rfl
  handle _ _ := rfl
  note _ _ := rfl

theorem Maps.settle {σ τ ε : Type} {f : σ → τ} {intake : Intake σ ε} {image : Intake τ ε}
    (h : Maps f intake image) (pending : Option Inbound) (s : σ) :
    settle image pending (f s) = (settle intake pending s).map id (Prod.map id f) := by
  cases pending with
  | none => rfl
  | some message =>
    rcases hs : intake.rewind message s with ⟨_ | _, s⟩ <;>
      simp [Consumer.settle, h.rewind, hs, h.note]

variable {σ ε : Type} [DomainEvent ε]

/-- One call of `processNext`, with the message that is left to be rewound and the state after. -/
def visit (intake : Intake σ ε) (pending : Option Inbound) (s : σ) :
    Visit ε × Option Inbound × σ :=
  let (receipt, pending, r) := processNext intake.recorded pending ⟨s, []⟩
  (⟨r.calls, receipt⟩, pending, r.state)

/-- A number of successive calls of `processNext`. -/
def visits (intake : Intake σ ε) : Nat → Option Inbound → σ → List (Visit ε) × Option Inbound × σ
  | 0, pending, s => ([], pending, s)
  | count + 1, pending, s =>
    let (first, pending, s) := visit intake pending s
    let (rest, pending, s) := visits intake count pending s
    (first :: rest, pending, s)

/-- What follows a processed message: a rewind after a retry, and a commit otherwise. -/
theorem process_eq (intake : Intake σ ε) (message : Inbound) (pending : Option Inbound) (s : σ) :
    process intake message pending s =
      let (outcome, s) := apply intake message s
      if outcome = .retry then
        match intake.rewind message s with
        | (.ok (), s) => (outcome, pending, s)
        | (.error _, s) => (outcome, some message, intake.note .rewindFailed s)
      else
        match intake.commit message s with
        | (.ok (), s) => (outcome, pending, s)
        | (.error _, s) => (outcome, pending, intake.note .commitFailed s) := by
  unfold process
  rcases apply intake message s with ⟨outcome, s⟩
  cases outcome <;> rfl

namespace Maps

variable {τ : Type} {f : σ → τ} {intake : Intake σ ε} {image : Intake τ ε}
  (h : Maps f intake image)
include h

theorem apply (message : Inbound) (s : σ) :
    apply image message (f s) = (apply intake message s).map id f := by
  unfold Consumer.apply
  cases decode? ε message with
  | none => exact congrArg (Prod.mk _) (h.note _ s)
  | some event =>
    by_cases hh : DomainEvent.isHandled event = true
    · rcases hs : intake.handle event s with ⟨(_ | _) | _, s⟩ <;>
        simp [hh, h.handle, hs, h.note]
    · simp [hh, h.note]

theorem process (message : Inbound) (pending : Option Inbound) (s : σ) :
    process image message pending (f s) =
      (process intake message pending s).map id (Prod.map id f) := by
  rw [process_eq, process_eq, h.apply]
  rcases Consumer.apply intake message s with ⟨outcome, s⟩
  by_cases hr : outcome = .retry
  · rcases hs : intake.rewind message s with ⟨_ | _, s⟩ <;> simp [hr, h.rewind, hs, h.note]
  · rcases hs : intake.commit message s with ⟨_ | _, s⟩ <;> simp [hr, h.commit, hs, h.note]

theorem receive (pending : Option Inbound) (s : σ) :
    receive image pending (f s) = (receive intake pending s).map id (Prod.map id f) := by
  unfold Consumer.receive
  rw [h.fetch]
  rcases intake.fetch s with ⟨_ | _ | message, s⟩
  · rfl
  · rfl
  · exact congrArg (Prod.map Receipt.done id) (h.process message pending s)

theorem processNext (pending : Option Inbound) (s : σ) :
    processNext image pending (f s) = (processNext intake pending s).map id (Prod.map id f) := by
  unfold Consumer.processNext
  rw [h.settle]
  rcases Consumer.settle intake pending s with ⟨_ | _, pending, s⟩
  · rfl
  · exact h.receive pending s

end Maps

/-- A visit is a call of `processNext`. -/
theorem visit_eq_processNext (intake : Intake σ ε) (pending : Option Inbound) (s : σ) :
    ((visit intake pending s).1.receipt, (visit intake pending s).2) =
      processNext intake pending s :=
  ((maps_recorded intake).processNext pending ⟨s, []⟩).symm

/-- What is kept by all calls of an intake. -/
structure Intake.Preserves {σ ε : Type} (intake : Intake σ ε) (Keeps : σ → Prop) : Prop where
  fetch : ∀ s, Keeps s → Keeps (intake.fetch s).2
  commit : ∀ message s, Keeps s → Keeps (intake.commit message s).2
  rewind : ∀ message s, Keeps s → Keeps (intake.rewind message s).2
  handle : ∀ event s, Keeps s → Keeps (intake.handle event s).2
  note : ∀ notice s, Keeps s → Keeps (intake.note notice s)

section Restriction

variable {σ ε : Type} {intake : Intake σ ε} {Keeps : σ → Prop} (h : intake.Preserves Keeps)

/-- The intake on the states in which something holds that is kept. -/
def Intake.Preserves.restrict : Intake { s // Keeps s } ε where
  fetch s := ((intake.fetch s).1, ⟨_, h.fetch s s.2⟩)
  commit message s := ((intake.commit message s).1, ⟨_, h.commit message s s.2⟩)
  rewind message s := ((intake.rewind message s).1, ⟨_, h.rewind message s s.2⟩)
  handle event s := ((intake.handle event s).1, ⟨_, h.handle event s s.2⟩)
  cancelled s := intake.cancelled s
  note notice s := ⟨_, h.note notice s s.2⟩

theorem Intake.Preserves.maps : Maps Subtype.val h.restrict intake where
  fetch _ := rfl
  commit _ _ := rfl
  rewind _ _ := rfl
  handle _ _ := rfl
  note _ _ := rfl

include h in
theorem Intake.Preserves.settle (pending : Option Inbound) {s : σ} (hs : Keeps s) :
    Keeps (settle intake pending s).2.2 := by
  rw [h.maps.settle pending ⟨s, hs⟩]
  exact (Consumer.settle h.restrict pending ⟨s, hs⟩).2.2.property

include h in
theorem Intake.Preserves.receive [DomainEvent ε] (pending : Option Inbound) {s : σ}
    (hs : Keeps s) : Keeps (receive intake pending s).2.2 := by
  rw [h.maps.receive pending ⟨s, hs⟩]
  exact (Consumer.receive h.restrict pending ⟨s, hs⟩).2.2.property

end Restriction

end HrPipeline.Consumer
