import HrPipeline.Publisher.Tick
import Mathlib.Logic.Function.Iterate

/-!
# The stages of a tick

Several publishers work at once and their calls interleave, so a tick is taken apart into its calls.
A `Stage` is where a publisher stands, and `advance` takes it one call further. A publisher that is
left alone gets from `Stage.idle` to the result of `tick`.
-/

namespace HrPipeline.Publisher

open HrPipeline.Broker HrPipeline.Outbox

/-- Where a publisher stands. -/
inductive Stage where
  /-- Before a tick. -/
  | idle
  /-- With the rows that are left of a batch. -/
  | working (rest : List Row) (report : Report)
  /-- After the message of a row was sent, and before its outcome is recorded. -/
  | recording (row : Row) (outcome : Except BrokerError Unit) (rest : List Row) (report : Report)
  /-- At the end of a tick. -/
  | finished (result : Except OutboxError Report)

/-- A call of a publisher about a row, and whether it went through. -/
inductive Call where
  | send (row : Row) (accepted : Bool)
  | markSent (id : Uuid) (recorded : Bool)
  | markFailed (id : Uuid) (recorded : Bool)
deriving DecidableEq

namespace Stage

/-- The rows that a publisher holds. -/
def rows : Stage → List Row
  | idle | finished _ => []
  | working rest _ => rest
  | recording row _ rest _ => row :: rest

/-- Whether a publisher has sent the message of a row and is yet to record its acceptance. -/
def owes (id : Uuid) : Stage → Bool
  | recording row (.ok ()) _ _ => row.id = id
  | recording _ (.error _) _ _ | idle | working _ _ | finished _ => false

end Stage

section Advance

variable {σ : Type} (outlet : Outlet σ) (maxAttempts : Option Int) (batchSize : Int)

/-- Takes a publisher one call further. -/
def advance : Stage → σ → Stage × σ
  | .idle, s =>
    if outlet.cancelled s then (.finished (.ok { Report.empty with interrupted := true }), s)
    else
      match outlet.claim batchSize s with
      | (.error error, s) => (.finished (.error error), s)
      | (.ok batch, s) => (.working batch { Report.empty with claimed := batch.length }, s)
  | .working [] report, s => (.finished (.ok report), s)
  | .working (row :: rest) report, s =>
    if outlet.cancelled s then (.finished (.ok { report with interrupted := true }), s)
    else
      let (outcome, s) := outlet.send (Outbound.ofRow row) s
      (.recording row outcome rest report, s)
  | .recording row outcome rest report, s =>
    let (report, s) := record outlet maxAttempts row report outcome s
    (.working rest report, s)
  | .finished result, s => (.idle, outlet.note (tickNotice result) s)

/-- The call that a publisher makes next about a row, if it makes one. -/
def nextCall? : Stage → σ → Option Call
  | .working (row :: _) _, s =>
    if outlet.cancelled s then none
    else some (.send row (outlet.send (Outbound.ofRow row) s).1.isOk)
  | .recording row (.ok ()) _ _, s => some (.markSent row.id (outlet.markSent row.id s).1.isOk)
  | .recording row (.error error) _ _, s =>
    some (.markFailed row.id (outlet.markFailed row.id error.message s).1.isOk)
  | .working [] _, _ | .idle, _ | .finished _, _ => none

/-- What every call of an outlet keeps is kept when a result is recorded. -/
private theorem record_keeps {Keeps : σ → Prop}
    (hsent : ∀ id s, Keeps s → Keeps (outlet.markSent id s).2)
    (hfailed : ∀ id reason s, Keeps s → Keeps (outlet.markFailed id reason s).2)
    (hnote : ∀ notice s, Keeps s → Keeps (outlet.note notice s)) (row : Row) (report : Report)
    (outcome : Except BrokerError Unit) {s : σ} (h : Keeps s) :
    Keeps (record outlet maxAttempts row report outcome s).2 := by
  cases outcome with
  | ok _ =>
    have hs := hsent row.id s h
    rcases hm : outlet.markSent row.id s with ⟨result, s'⟩
    rw [hm] at hs
    simp only [record, hm]
    cases result <;> exact hnote _ s' hs
  | error error =>
    have hs := hfailed row.id error.message s h
    rcases hm : outlet.markFailed row.id error.message s with ⟨result, s'⟩
    rw [hm] at hs
    simp only [record, hm]
    cases result with
    | error _ => exact hnote _ s' hs
    | ok _ =>
      simp only
      split <;> exact hnote _ s' hs

/-- What every call of an outlet keeps is kept by a step. -/
theorem advance_keeps (Keeps : σ → Prop)
    (hclaim : ∀ s, Keeps s → Keeps (outlet.claim batchSize s).2)
    (hsend : ∀ message s, Keeps s → Keeps (outlet.send message s).2)
    (hsent : ∀ id s, Keeps s → Keeps (outlet.markSent id s).2)
    (hfailed : ∀ id reason s, Keeps s → Keeps (outlet.markFailed id reason s).2)
    (hnote : ∀ notice s, Keeps s → Keeps (outlet.note notice s)) (stage : Stage) {s : σ}
    (h : Keeps s) : Keeps (advance outlet maxAttempts batchSize stage s).2 := by
  cases stage with
  | idle =>
    have hs := hclaim s h
    simp only [advance]
    split
    · exact h
    · rcases hc : outlet.claim batchSize s with ⟨error | batch, s'⟩ <;> rw [hc] at hs <;> exact hs
  | working rest report =>
    cases rest with
    | nil => exact h
    | cons row rest =>
      simp only [advance]
      split
      · exact h
      · exact hsend (Outbound.ofRow row) s h
  | recording row outcome rest report =>
    exact record_keeps outlet maxAttempts hsent hfailed hnote row report outcome h
  | finished result => exact hnote (tickNotice result) s h

/-- Takes a publisher with the state behind it one call further. -/
def next (both : Stage × σ) : Stage × σ := advance outlet maxAttempts batchSize both.1 both.2

/-- Left alone, a publisher works off the rest of its batch as `drain` does. -/
theorem exists_iterate_drain (rest : List Row) (report : Report) (s : σ) :
    ∃ calls, (next outlet maxAttempts batchSize)^[calls] (.working rest report, s) =
      (.finished (.ok (drain outlet maxAttempts rest report s).1),
        (drain outlet maxAttempts rest report s).2) := by
  induction rest generalizing report s with
  | nil => exact ⟨1, rfl⟩
  | cons row rest ih =>
    by_cases hc : outlet.cancelled s = true
    · refine ⟨1, ?_⟩
      simp [next, advance, drain, hc]
    · rcases hp : publishRow outlet maxAttempts row report s with ⟨report', s'⟩
      obtain ⟨calls, hcalls⟩ := ih report' s'
      refine ⟨calls + 2, ?_⟩
      -- The row takes two calls: its message is sent, and then the outcome is recorded.
      have htwo : (next outlet maxAttempts batchSize)^[2] (.working (row :: rest) report, s) =
          (.working rest report', s') := by
        unfold publishRow at hp
        simp only [Function.iterate_succ, Function.iterate_zero, Function.comp_apply, id_eq, next,
          advance, hc, if_false, Bool.false_eq_true, hp]
      rw [Function.iterate_add_apply, htwo, hcalls]
      simp only [drain, hc, if_false, Bool.false_eq_true, hp]

/-- Left alone, a publisher comes to the result of `tick`. -/
theorem exists_iterate_tick (s : σ) :
    ∃ calls, (next outlet maxAttempts batchSize)^[calls] (.idle, s) =
      (.finished (tick outlet maxAttempts batchSize s).1,
        (tick outlet maxAttempts batchSize s).2) := by
  by_cases hc : outlet.cancelled s = true
  · refine ⟨1, ?_⟩
    simp [next, advance, tick, hc]
  · rcases hb : outlet.claim batchSize s with ⟨error | batch, s'⟩
    · refine ⟨1, ?_⟩
      simp [next, advance, tick, hc, hb]
    · obtain ⟨calls, hcalls⟩ := exists_iterate_drain outlet maxAttempts batchSize batch
        { Report.empty with claimed := batch.length } s'
      refine ⟨calls + 1, ?_⟩
      have hone : next outlet maxAttempts batchSize (.idle, s) =
          (.working batch { Report.empty with claimed := batch.length }, s') := by
        simp only [next, advance, hc, if_false, Bool.false_eq_true, hb]
      rw [Function.iterate_succ_apply, hone, hcalls]
      simp only [tick, hc, if_false, Bool.false_eq_true, hb]

/-- Left alone, a publisher is before its next tick with what `loopTick` leaves behind. -/
theorem exists_iterate_loopTick (s : σ) :
    ∃ calls, (next outlet maxAttempts batchSize)^[calls] (.idle, s) =
      (.idle, loopTick outlet maxAttempts batchSize s) := by
  obtain ⟨calls, hcalls⟩ := exists_iterate_tick outlet maxAttempts batchSize s
  refine ⟨calls + 1, ?_⟩
  rw [Function.iterate_succ_apply', hcalls]
  rfl

end Advance

end HrPipeline.Publisher
