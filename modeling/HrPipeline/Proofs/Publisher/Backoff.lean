import HrPipeline.Proofs.Publisher.CommitOrder
import HrPipeline.Proofs.Publisher.RetrySchedule

/-!
# How long rows wait

However often a row has failed, it is due within 150 seconds of its last failure. `Waiting` says of
all rows that they are due by a deadline. For every instant there is one: 150 seconds after it, for
all that was recorded up to the instant (`Reachable.waiting`). While the broker accepts every
message no failure is recorded, and the deadline stays (`Leads.waiting`).

The clock does not count leap seconds, and the instant is to lie outside one: otherwise a failure
before it may have its row wait for longer.
-/

namespace HrPipeline

open HrPipeline.Broker HrPipeline.Calendar HrPipeline.Outbox

namespace Outbox

/-- No failure makes a row wait for longer than after ten of them. -/
theorem backoffSeconds_bounds (retryCount : Int) :
    0 ≤ backoffSeconds retryCount ∧ backoffSeconds retryCount ≤ 150 := by
  unfold backoffSeconds
  omega

theorem nextRetryCount_le (retryCount : Int) : nextRetryCount retryCount ≤ retryCount + 1 := by
  unfold nextRetryCount
  omega

end Outbox

namespace Scenario.World

/-- The clock reads an instant within a second or the leap second after it. -/
def Clocked (world : World) : Prop := world.clock.nano < 2 * nanosPerSecond

end Scenario.World

namespace Publisher

open HrPipeline.Scenario

namespace Call

variable (now : Instant) (reason : String)

/-- A call counts no failure but the one that it records. -/
theorem retryCount_change_le (call : Call) (row : Row) :
    (call.change now reason row).retryCount ≤
      row.retryCount + if call = .markFailed row.id true then 1 else 0 := by
  cases call with
  | send other accepted => simp [change]
  | markSent id recorded =>
    simp only [change]
    split
    · simp [Row.retryCount_markSent]
    · simp
  | markFailed id recorded =>
    simp only [change]
    split
    · next h =>
      obtain ⟨rfl, rfl⟩ := h
      rw [if_pos rfl, Row.retryCount_markFailed]
      split
      · omega
      · exact nextRetryCount_le row.retryCount
    · split <;> omega

/-- A call lets a row wait for nothing new, unless it records a failure. -/
theorem due_change {call : Call} {row : Row} {due : Instant}
    (h : (call.change now reason row).nextRetryAt = some due) :
    row.nextRetryAt = some due ∨
      call = .markFailed row.id true ∧ ∃ count, due = now.addSeconds (backoffSeconds count) := by
  cases call with
  | send other accepted => exact .inl h
  | markSent id recorded =>
    simp only [change, Row.markSent] at h
    split at h
    · split at h
      · exact .inl h
      · cases h
    · exact .inl h
  | markFailed id recorded =>
    simp only [change] at h
    split at h
    · next hid =>
      obtain ⟨rfl, rfl⟩ := hid
      rw [Row.nextRetryAt_markFailed] at h
      split at h
      · exact .inl h
      · exact .inr ⟨rfl, _, (Option.some.inj h).symm⟩
    · exact .inl h

end Call

/-- Whether a publisher is going to record a failure. -/
def Stage.recordsFailure : Stage → Bool
  | recording _ (.error _) _ _ => true
  | recording _ (.ok _) _ _ | idle | working _ _ | finished _ => false

theorem Stage.not_recordsFailure {stage : Stage} (h : stage.rows = []) :
    stage.recordsFailure = false := by
  cases stage with
  | idle | finished _ | working _ _ => rfl
  | recording row _ rest _ => cases h

namespace Turn

variable {ceiling : Option Int} {world : World} {rows rows' : List Row} {stage stage' : Stage}
  {deed : Deed}

/-- A turn changes the rows as its call does. -/
theorem rows_eq (h : Turn ceiling world rows stage stage' rows' deed) :
    ∃ reason, rows' = changeRows world.clock reason deed.call? rows := by
  cases h with
  | rest _ _ | claim _ _ => exact ⟨"", rfl⟩
  | send _ => exact ⟨"", (List.map_id rows).symm⟩
  | sent _ _ => exact ⟨"", rfl⟩
  | @failed row error _ _ _ _ => exact ⟨error.message, rfl⟩

/-- A turn that records a failure was going to. -/
theorem recordsFailure_of_fails {id : Uuid}
    (h : Turn ceiling world rows stage stage' rows' deed) (hf : deed.fails id = true) :
    stage.recordsFailure = true := by
  cases h with
  | rest _ _ | claim _ _ | send _ | sent _ _ => simp [Deed.fails] at hf
  | failed _ => rfl

/-- Where the broker accepts every message, no failure is going to be recorded. -/
theorem not_recordsFailure (h : Turn ceiling world rows stage stage' rows' deed)
    (hw : world.Accepting) : stage'.recordsFailure = false := by
  cases h with
  | rest hrows _ => exact Stage.not_recordsFailure hrows
  | claim _ _ | sent _ _ | failed _ => rfl
  | send houtcome =>
    rw [houtcome, hw.send]
    rfl

end Turn

namespace Solo

theorem length_failuresOf_concat (id : Uuid) (journal : List Deed) (deed : Deed) :
    (failuresOf id (journal ++ [deed])).length =
      (failuresOf id journal).length + if deed.fails id then 1 else 0 := by
  rw [failuresOf_concat]
  split
  · simp
  · rfl

/-- What rows satisfy that wait up to a deadline: they are in the order of their commits, and each
counts no more failures than are recorded and is due by the deadline. -/
structure Waiting (deadline : Instant) (rows : List Row) (journal : List Deed) (now : Instant) :
    Prop where
  chronological : Chronological rows now
  counted : ∀ row ∈ rows, row.retryCount ≤ (failuresOf row.id journal).length
  due : ∀ row ∈ rows, ∀ due, row.nextRetryAt = some due → due ≤ deadline

namespace Waiting

variable {ceiling : Option Int} {deadline now : Instant} {rows rows' : List Row}
  {stage stage' : Stage} {journal : List Deed} {world : World} {deed : Deed}

theorem empty (deadline now : Instant) : Waiting deadline [] [] now where
  chronological := ⟨.nil, by simp⟩
  counted := by simp
  due := by simp

theorem later {later : Instant} (h : Waiting deadline rows journal now) (hle : now ≤ later) :
    Waiting deadline rows journal later :=
  { h with chronological := h.chronological.later hle }

/-- A commit adds rows that do not wait. -/
theorem commit (h : Waiting deadline rows journal now) (drafts : List Draft) :
    Waiting deadline (rows ++ drafts.map (Row.ofDraft · now)) journal now where
  chronological := h.chronological.commit drafts
  counted := by
    refine List.forall_mem_append.mpr ⟨h.counted, List.forall_mem_map.mpr fun draft _ => ?_⟩
    show (0 : Int) ≤ _
    omega
  due := by
    refine List.forall_mem_append.mpr ⟨h.due, List.forall_mem_map.mpr fun draft _ due hdue => ?_⟩
    cases hdue

/-- A step that makes no call about a row, or one whose failure has the row wait up to the deadline
at most. -/
private theorem step (h : Waiting deadline rows journal now) (deed : Deed) (reason : String)
    (hf : ∀ id, deed.fails id = true → ∀ count,
      now.addSeconds (backoffSeconds count) ≤ deadline) :
    Waiting deadline (changeRows now reason deed.call? rows) (journal ++ [deed]) now := by
  cases hcall : deed.call? with
  | none =>
    refine { h with counted := fun row hm => ?_ }
    have hcount := h.counted row hm
    rw [length_failuresOf_concat]
    omega
  | some call =>
    have hfails : ∀ id, deed.fails id = true ↔ call = .markFailed id true := by
      intro id
      simp [Deed.fails, hcall]
    constructor
    case chronological =>
      apply h.chronological.map
      exact fun row _ => Call.createdAt_change now reason call row
    case counted =>
      refine List.forall_mem_map.mpr fun row hm => ?_
      have hcount := h.counted row hm
      have hchange := Call.retryCount_change_le now reason call row
      rw [Call.id_change, length_failuresOf_concat]
      simp only [hfails]
      split at hchange
      · next hmarks =>
        rw [if_pos hmarks]
        omega
      · next hmarks =>
        rw [if_neg hmarks]
        omega
    case due =>
      refine List.forall_mem_map.mpr fun row hm due hdue => ?_
      rcases Call.due_change now reason hdue with hold | ⟨hmarks, count, rfl⟩
      · exact h.due row hm due hold
      · exact hf row.id ((hfails row.id).mpr hmarks) count

/-- A turn keeps the deadline, if no failure is going to be recorded or it would still be kept. -/
theorem turn (h : Waiting deadline rows journal world.clock)
    (ht : Turn ceiling world rows stage stage' rows' deed)
    (hf : stage.recordsFailure = true → ∀ count,
      world.clock.addSeconds (backoffSeconds count) ≤ deadline) :
    Waiting deadline rows' (journal ++ [deed]) world.clock := by
  obtain ⟨reason, rfl⟩ := ht.rows_eq
  apply h.step
  intro id hfails
  exact hf (ht.recordsFailure_of_fails hfails)

end Waiting

variable {ceiling : Option Int} {solo first : Solo}

/-- Up to an instant outside a leap second, every row is due by 150 seconds after it. -/
theorem kept_waiting (ceiling : Option Int) {start : Instant} (hs : start.nano < nanosPerSecond) :
    Kept ceiling World.Clocked fun rows _ journal now =>
      now ≤ start → Waiting (start.addSeconds 150) rows journal now where
  turn {world _ _ _ _ _ _} hw _ h ht hle := by
    apply (h hle).turn ht
    -- A failure that is recorded now counts from now, which is not after the start.
    intro _ count
    obtain ⟨hpos, hmost⟩ := backoffSeconds_bounds count
    exact Instant.addSeconds_le_addSeconds hle hw hs hpos hmost
  commit drafts _ _ h hle := (h hle).commit drafts
  wait hle h hstart := (h (Instant.le_trans hle hstart)).later hle

/-- No row waits for longer than 150 seconds. -/
theorem Reachable.waiting {start : Instant} (h : Reachable ceiling World.Clocked solo)
    (hle : solo.world.clock ≤ start) (hs : start.nano < nanosPerSecond) :
    solo.Sound ceiling World.Clocked ∧
      Waiting (start.addSeconds 150) solo.rows solo.journal solo.world.clock := by
  obtain ⟨hsound, hwaiting⟩ := h.induct _ (fun now _ => .empty _ now) (kept_waiting ceiling hs)
  exact ⟨hsound, hwaiting hle⟩

/-- While the broker accepts every message, no row comes to wait. -/
theorem kept_waiting_accepting (ceiling : Option Int) (deadline : Instant) :
    Kept ceiling World.Accepting fun rows stage journal now =>
      stage.recordsFailure = false ∧ Waiting deadline rows journal now where
  turn hw _ h ht := by
    refine ⟨ht.not_recordsFailure hw, h.2.turn ht fun hf => ?_⟩
    rw [h.1] at hf
    cases hf
  commit drafts _ _ h := ⟨h.1, h.2.commit drafts⟩
  wait hle h := ⟨h.1, h.2.later hle⟩

/-- Once the broker accepts every message, rows wait for what they waited for before at most. -/
theorem Leads.waiting {deadline : Instant} {required : World → Prop}
    (h : Leads ceiling World.Accepting first solo) (hsound : first.Sound ceiling required)
    (hrest : first.stage.rows = [])
    (hfirst : Waiting deadline first.rows first.journal first.world.clock) :
    solo.Sound ceiling World.Accepting ∧
      Waiting deadline solo.rows solo.journal solo.world.clock := by
  obtain ⟨hsound', -, hwaiting⟩ := h.induct (kept_waiting_accepting ceiling deadline) hsound
    ⟨Stage.not_recordsFailure hrest, hfirst⟩
  exact ⟨hsound', hwaiting⟩

/-- An unsent row whose deadline has passed is eligible in a store without a ceiling, as long as its
failures can be counted. -/
theorem Waiting.isEligible {deadline now : Instant} {rows : List Row} {journal : List Deed}
    (h : Waiting deadline rows journal now) (hpast : deadline ≤ now) {row : Row}
    (hm : row ∈ rows) (hs : row.status ≠ .sent)
    (hcount : ((failuresOf row.id journal).length : Int) < maxRetryCount) :
    row.isEligible none now = true := by
  have hcounted := h.counted row hm
  have hdue : row.isClaimable now = true := by
    unfold Row.isClaimable
    cases hretry : row.nextRetryAt with
    | none => simpa using hs
    | some due => simpa [hs] using Instant.le_trans (h.due row hm due hretry) hpast
  rw [Row.isEligible, hdue, Option.getD_none, Bool.true_and, decide_eq_true_eq]
  omega

end Solo
end Publisher
end HrPipeline
