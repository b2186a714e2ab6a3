import HrPipeline.Proofs.Outbox.Marks
import HrPipeline.Proofs.Publisher.Backoff

/-!
# Recovery after an outage

When the broker has accepted every message for 150 seconds, the next tick that nothing gets in the
way of sends all rows that are still unsent, in the order of their commits, and records all of them.
`Ticking` is such a tick, one call after the other, and `InTick` what holds after each of its calls.

The 150 seconds are to begin outside a leap second. 150 seconds after 23:59:60.5 the clock reads
00:02:29.5, and a row that failed for the tenth time at 23:59:59.9, which is earlier, is kept back
until 00:02:29.9.
-/

namespace HrPipeline

open HrPipeline.Broker HrPipeline.Calendar HrPipeline.Outbox

namespace Scenario.World

/-- Nothing gets in the way of a tick. -/
structure Undisturbed (world : World) : Prop extends Accepting world where
  claims : world.faults.claim = 0
  records : world.faults.markSent = 0
  running : world.shutdown.requested = false

/-- Nothing gets in the way of a tick, and none of its messages is to bring a shutdown. -/
structure Steady (world : World) : Prop extends Undisturbed world where
  endless : world.shutdown.during = none

namespace Steady

variable {world : World}

theorem claim (h : world.Steady) (limit : Int) : (world.claim limit).2.Steady := by
  rw [World.claim, if_neg (by simp [h.claims]), claimRows]
  split
  · rw [noteAll_eq]
    exact { h with }
  · exact h

theorem send (h : world.Steady) (message : Outbound) : (world.send message).2.Steady := by
  have hrunning : (world.shutdown.requested ||
      decide (world.shutdown.during = some (world.shutdown.sends + 1))) = false := by
    simp [h.running, h.endless]
  simp only [World.send, h.unrejected, List.not_mem_nil, if_false, deliver, Log.send, h.available,
    if_true]
  exact { h with running := hrunning }

private theorem keep (h : world.Steady) (result : Except OutboxError Storage) :
    (world.keep result).2.Steady := by
  cases result <;> exact { h with }

theorem markSent (h : world.Steady) (id : Uuid) : (world.markSent id).2.Steady := by
  rw [World.markSent, if_neg (by simp [h.records])]
  exact h.keep _

theorem markFailed (h : world.Steady) (id : Uuid) (reason : String) :
    (world.markFailed id reason).2.Steady := by
  unfold World.markFailed
  split
  · exact { h with }
  · exact h.keep _

end Steady

/-- The acceptance of a stored row is recorded. -/
theorem Undisturbed.markSent {world : World} {store : Store} (h : world.Undisturbed)
    (hm : world.storage = .memory store) (hu : (store.rows.map (·.id)).Nodup) {id : Uuid}
    (hid : id ∈ store.rows.map (·.id)) : (world.markSent id).1 = .ok () := by
  have hany : store.rows.any (·.id = id) = true := by simpa using hid
  rw [World.markSent, if_neg (by simp [h.records]), recordSent, hm, Storage.markSent,
    Store.markSent, Store.update_eq hu, if_pos hany]
  rfl

end Scenario.World

namespace Publisher

open HrPipeline.Scenario

/-- A row that is not sent after a call was not before, and the call did not record it as sent. -/
theorem Call.unsent_of_change {now : Instant} {reason : String} {call : Call} {row : Row}
    (h : (call.change now reason row).status ≠ .sent) :
    row.status ≠ .sent ∧ call ≠ .markSent row.id true := by
  cases call with
  | send other accepted => exact ⟨h, by simp⟩
  | markSent id recorded =>
    simp only [change] at h
    split at h
    · exact absurd (Row.markSent_status now row) h
    · next hid =>
      refine ⟨h, fun he => ?_⟩
      obtain ⟨rfl, rfl⟩ := Call.markSent.inj he
      exact hid ⟨rfl, rfl⟩
  | markFailed id recorded =>
    refine ⟨fun hs => h ?_, by simp⟩
    simp only [change]
    split
    · exact (Row.markFailed_status_iff row now reason).mpr hs
    · exact hs

/-- A row that is not sent after a step was not before, and the step did not record it as sent. -/
theorem unsent_of_mem_changeRows {now : Instant} {reason : String} {call? : Option Call}
    {rows : List Row} {row : Row} (hm : row ∈ changeRows now reason call? rows)
    (hs : row.status ≠ .sent) :
    ∃ before ∈ rows, row.id = before.id ∧ before.status ≠ .sent ∧
      call? ≠ some (.markSent before.id true) := by
  cases call? with
  | none => exact ⟨row, hm, rfl, hs, by simp⟩
  | some call =>
    obtain ⟨before, hbefore, rfl⟩ := List.mem_map.mp hm
    obtain ⟨hunsent, hne⟩ := Call.unsent_of_change hs
    exact ⟨before, hbefore, Call.id_change now reason call before, hunsent, by simpa using hne⟩

deriving instance DecidableEq for Stage

section Undisturbed

variable (ceiling : Option Int) (batchSize : Int) {world : World}

/-- Where nothing gets in the way, the message of a row is accepted. -/
theorem advance_send (hw : world.Undisturbed) (row : Row) (rest : List Row) (report : Report) :
    (advance World.outlet ceiling batchSize (.working (row :: rest) report) world).1 =
        .recording row (.ok ()) rest report ∧
      nextCall? World.outlet (.working (row :: rest) report) world = some (.send row true) := by
  have hcancelled : World.outlet.cancelled world = false := hw.running
  have hsend : (World.outlet.send (Outbound.ofRow row) world).1 = .ok () := hw.send _
  constructor
  · simp only [advance, hcancelled, Bool.false_eq_true, if_false, hsend]
  · simp only [nextCall?, hcancelled, Bool.false_eq_true, if_false, hsend]
    rfl

/-- Where nothing gets in the way, the acceptance of a stored row is recorded. -/
theorem advance_record {store : Store} (hw : world.Undisturbed)
    (hm : world.storage = .memory store) (hu : (store.rows.map (·.id)).Nodup) {row : Row}
    (hid : row.id ∈ store.rows.map (·.id)) (rest : List Row) (report : Report) :
    (advance World.outlet ceiling batchSize (.recording row (.ok ()) rest report) world).1 =
        .working rest { report with published := report.published + 1 } ∧
      nextCall? World.outlet (.recording row (.ok ()) rest report) world =
        some (.markSent row.id true) := by
  rcases hs : World.outlet.markSent row.id world with ⟨result, after⟩
  have hresult : result = .ok () := by
    rw [← hw.markSent hm hu hid]
    exact (congrArg Prod.fst hs).symm
  subst hresult
  constructor
  · simp only [advance, record, hs]
  · simp only [nextCall?, hs]
    rfl

end Undisturbed

namespace Solo

/-- The rows that are not sent. -/
def unsent (solo : Solo) : List Row := solo.rows.filter fun row => row.status ≠ .sent

/-- What a publisher comes to in a tick, after a number of calls. Nothing gets in the way of the
calls, and no transaction is committed between them; anything else may change. -/
inductive Ticking (batchSize : Int) (first : Solo) : Nat → Solo → Prop where
  | start : Ticking batchSize first 0 first
  | call {calls : Nat} {solo : Solo} (h : Ticking batchSize first calls solo)
      (hw : solo.world.Undisturbed) :
      Ticking batchSize first (calls + 1) (solo.advance none batchSize)
  | change {calls : Nat} {solo : Solo} (h : Ticking batchSize first (calls + 1) solo)
      (world : World) (hs : solo.world.SameRecord world) :
      Ticking batchSize first (calls + 1) { solo with world }

/-- A call in a steady world leaves it steady. -/
theorem steady_advance {solo : Solo} (h : solo.world.Steady) (ceiling : Option Int)
    (batchSize : Int) : (solo.advance ceiling batchSize).world.Steady := by
  apply advance_keeps World.outlet ceiling batchSize World.Steady
  case hclaim => exact fun _ hw => hw.claim batchSize
  case hsend => exact fun message _ hw => hw.send message
  case hsent => exact fun id _ hw => hw.markSent id
  case hfailed => exact fun id reason _ hw => hw.markFailed id reason
  case hnote => exact fun _ _ hw => { hw with }
  case h => exact h

/-- In a steady world that nothing else changes, nothing gets in the way of a tick. -/
theorem ticking_of_steady {first : Solo} (h : first.world.Steady) (batchSize : Int)
    (calls : Nat) :
    Ticking batchSize first calls ((Solo.advance none batchSize)^[calls] first) := by
  have hsteady : ∀ made, ((Solo.advance none batchSize)^[made] first).world.Steady := by
    intro made
    induction made with
    | zero => exact h
    | succ made ih =>
      rw [Function.iterate_succ_apply']
      exact steady_advance ih none batchSize
  induction calls with
  | zero => exact .start
  | succ calls ih =>
    rw [Function.iterate_succ_apply']
    exact ih.call (hsteady calls).toUndisturbed

/-- The report of a tick that has published some of the rows that it claimed. -/
def progress (total done : Nat) : Report :=
  { Report.empty with claimed := total, published := done }

/-- Where a publisher stands in a tick over a number of rows after a number of calls: it claims the
rows, makes two calls about each of them, and ends the tick. -/
inductive OnCourse (total : Nat) : Nat → Stage → Prop where
  | working (done : Nat) (rest : List Row) (h : done + rest.length = total) :
      OnCourse total (2 * done + 1) (.working rest (progress total done))
  | recording (done : Nat) (row : Row) (rest : List Row) (h : done + (row :: rest).length = total) :
      OnCourse total (2 * done + 2) (.recording row (.ok ()) rest (progress total done))
  | finished : OnCourse total (2 * total + 2) (.finished (.ok (progress total total)))

theorem OnCourse.eq_finished {total : Nat} {stage : Stage}
    (h : OnCourse total (2 * total + 2) stage) :
    stage = .finished (.ok (progress total total)) := by
  generalize hcalls : 2 * total + 2 = calls at h
  cases h with
  | working done rest hn => omega
  | recording done row rest hn =>
    rw [List.length_cons] at hn
    omega
  | finished => rfl

/-- What holds after each call of a tick. -/
structure InTick (first : Solo) (calls : Nat) (solo : Solo) : Prop where
  sound : solo.Sound none fun _ => True
  course : OnCourse first.unsent.length calls solo.stage
  /-- The rows whose messages have been accepted and those yet to be sent. -/
  messages : accepted solo.journal ++ solo.stage.ahead = accepted first.journal ++ first.unsent
  ids : solo.rows.map (·.id) = first.rows.map (·.id)
  stored : ∀ row ∈ solo.stage.rows, row.id ∈ solo.rows.map (·.id)
  held : ∀ row ∈ solo.rows, row.status ≠ .sent → row.id ∈ solo.stage.rows.map (·.id)

namespace InTick

variable {first solo : Solo} {batchSize : Int} {calls : Nat}

/-- A tick that claims all unsent rows is on course. -/
private theorem claim (hsound : first.Sound none World.Accepting) (hidle : first.stage = .idle)
    (hw : first.world.Undisturbed)
    (hclaim : (Store.mk first.rows none).claim batchSize first.world.clock = first.unsent) :
    InTick first 1 (first.advance none batchSize) := by
  have hadvance := advance_of_claim hsound.memory hidle ⟨hw.running, hw.claims⟩ hclaim
  have hany : first.Sound none fun _ => True := { hsound with required := trivial }
  obtain ⟨hsound', -⟩ := hany.advance batchSize trivial
  rw [hadvance] at hsound' ⊢
  constructor
  case sound => exact hsound'
  case course => exact .working 0 first.unsent (Nat.zero_add _)
  case messages =>
    rw [holding, accepted_append]
    exact congrArg (· ++ first.unsent) (List.append_nil _)
  case ids => rfl
  case stored => exact fun row hm => List.mem_map_of_mem (List.mem_of_mem_filter hm)
  case held =>
    intro row hm hs
    apply List.mem_map_of_mem
    exact List.mem_filter.mpr ⟨hm, decide_eq_true hs⟩

/-- A call after which the publisher is on course still, and holds the rows that it held before, but
for one that the call recorded as sent. -/
private theorem next (h : InTick first calls solo) {stage : Stage} {call? : Option Call}
    (hstage : (solo.advance none batchSize).stage = stage)
    (hcall : nextCall? World.outlet solo.stage solo.world = call?)
    (hcourse : OnCourse first.unsent.length (calls + 1) stage)
    (hmessages : (call?.bind Call.accepted?).toList ++ stage.ahead = solo.stage.ahead)
    (hkept : ∀ row ∈ stage.rows, row ∈ solo.stage.rows)
    (hrecorded : ∀ row ∈ solo.stage.rows, row ∈ stage.rows ∨
      call? = some (.markSent row.id true)) :
    InTick first (calls + 1) (solo.advance none batchSize) := by
  subst hstage hcall
  obtain ⟨hsound, deed, -, hturn⟩ := h.sound.advance batchSize trivial
  obtain ⟨now, reason, hstorage⟩ := (advanced h.sound.memory h.sound.unique rfl).storage
  have hrows : (solo.advance none batchSize).rows = changeRows now reason
      (nextCall? World.outlet solo.stage solo.world) solo.rows := congrArg Storage.rows hstorage
  constructor
  case sound => exact hsound
  case course => exact hcourse
  case messages =>
    rw [← h.messages, ← hmessages, ← List.append_assoc]
    exact congrArg (· ++ _) (accepted_append _ _)
  case ids => exact hturn.ids.trans h.ids
  case stored =>
    intro row hm
    rw [hturn.ids]
    exact h.stored row (hkept row hm)
  case held =>
    intro row hm hs
    rw [hrows] at hm
    obtain ⟨before, hbefore, hid, hunsent, hne⟩ := unsent_of_mem_changeRows hm hs
    obtain ⟨held, hheld, hsame⟩ := List.mem_map.mp (h.held before hbefore hunsent)
    rw [← hsame] at hid hne
    rw [hid]
    exact List.mem_map_of_mem ((hrecorded held hheld).resolve_right hne)

/-- As long as a tick is not at its end, it is on course after each call. -/
private theorem call (h : InTick first calls solo) (hw : solo.world.Undisturbed)
    (hlt : calls < 2 * first.unsent.length + 2) :
    InTick first (calls + 1) (solo.advance none batchSize) := by
  obtain ⟨world, stage, journal⟩ := solo
  have hcourse : OnCourse first.unsent.length calls stage := h.course
  cases hcourse with
  | working done rest hn =>
    cases rest with
    | nil =>
      obtain rfl : done = first.unsent.length := hn
      have hstage : ∀ report, (Solo.advance none batchSize
          ⟨world, .working [] report, journal⟩).stage = .finished (.ok report) := fun _ => rfl
      exact h.next (hstage _) rfl .finished rfl (by simp [Stage.rows]) (by simp [Stage.rows])
    | cons row rest =>
      obtain ⟨hstage, hcall⟩ := advance_send none batchSize hw row rest
        (progress first.unsent.length done)
      exact h.next hstage hcall (.recording done row rest hn) rfl (fun _ hm => hm)
        fun _ hm => .inl hm
  | recording done row rest hn =>
    obtain ⟨hstage, hcall⟩ := advance_record none batchSize hw h.sound.memory h.sound.unique
      (h.stored row List.mem_cons_self) rest (progress first.unsent.length done)
    refine h.next hstage hcall (.working (done + 1) rest ?_) rfl
      (fun other hm => List.mem_cons_of_mem row hm) fun other hm => ?_
    · rw [List.length_cons] at hn
      omega
    · rcases List.mem_cons.mp hm with rfl | hm
      · exact .inr rfl
      · exact .inl hm
  | finished => omega

/-- Between two calls, nothing that matters changes. -/
private theorem change (h : InTick first calls solo) {world : World}
    (hw : solo.world.SameRecord world) : InTick first calls { solo with world } := by
  have hrows : rows { solo with world } = solo.rows := congrArg Storage.rows hw.storage
  refine { h with sound := h.sound.change hw trivial, ids := ?_, stored := ?_, held := ?_ } <;>
    rw [hrows]
  · exact h.ids
  · exact h.stored
  · exact h.held

end InTick

/-- Every call of a tick keeps it on course to its end. -/
private theorem Ticking.inTick {first solo : Solo} {batchSize : Int} {calls : Nat}
    (h : Ticking batchSize first calls solo) (hsound : first.Sound none World.Accepting)
    (hidle : first.stage = .idle)
    (hclaim : (Store.mk first.rows none).claim batchSize first.world.clock = first.unsent)
    (hcalls : calls ≤ 2 * first.unsent.length + 2) :
    calls = 0 ∧ solo = first ∨ first.InTick calls solo := by
  induction h with
  | start => exact .inl ⟨rfl, rfl⟩
  | call _ hw ih =>
    rcases ih (by omega) with ⟨rfl, rfl⟩ | h
    · exact .inr (.claim hsound hidle hw hclaim)
    · exact .inr (h.call hw (by omega))
  | change _ world hw ih =>
    -- There was a call before, so the tick has begun.
    rcases ih hcalls with ⟨hzero, -⟩ | h
    · omega
    · exact .inr (h.change hw)

/-- A tick after an outage: a publisher holds no rows when the broker begins to accept every
message, at some instant, and is idle when it begins a tick, 150 seconds later or still later. -/
structure AfterOutage (start : Instant) (batchSize : Int) (calm first solo : Solo) : Prop where
  reachable : Reachable none World.Clocked calm
  empty : calm.stage.rows = []
  clock : calm.world.clock ≤ start
  available : Leads none World.Accepting calm first
  idle : first.stage = .idle
  late : start.addSeconds 150 ≤ first.world.clock
  /-- The failures of each row can be counted. -/
  counted : ∀ row ∈ first.rows, ((failuresOf row.id first.journal).length : Int) < maxRetryCount
  batch : first.unsent.length ≤ batchSize
  tick : Ticking batchSize first (2 * first.unsent.length + 2) solo

/-- A tick has sent all rows that were unsent before it, and recorded all of them. -/
structure Recovered (first solo : Solo) : Prop where
  finished : solo.stage = .finished (.ok (progress first.unsent.length first.unsent.length))
  accepted : accepted solo.journal = accepted first.journal ++ first.unsent
  messages : solo.world.broker.sent =
    first.world.broker.sent ++ first.unsent.map Outbound.ofRow
  /-- The rows that it sent are different ones, in the order of their commits. -/
  order : first.unsent.Pairwise fun a b => a.id ≠ b.id ∧ a.createdAt ≤ b.createdAt
  ids : solo.rows.map (·.id) = first.rows.map (·.id)
  sent : ∀ row ∈ solo.rows, row.status = .sent

variable {start : Instant} {batchSize : Int} {calm first solo : Solo}

/-- Unsent rows are different ones, in the order of their commits. -/
private theorem Sound.pairwise_unsent {required : World → Prop} (h : solo.Sound none required)
    (hc : Chronological solo.rows solo.world.clock) :
    solo.unsent.Pairwise fun a b => a.id ≠ b.id ∧ a.createdAt ≤ b.createdAt := by
  have hids : solo.rows.Pairwise fun a b => a.id ≠ b.id := List.pairwise_map.mp h.unique
  exact (hids.and hc.sorted).filter _

/-- Bounded recovery. Whatever outages, ticks and commits there were before: if the broker accepts
every message from some instant outside a leap second on, when the publisher holds no rows, then a
tick 150 seconds later or still later whose batch is large enough for all unsent rows ends after two
calls for each of them and two more, and has then sent each of them once, in the order of their
commits, and recorded all of them. -/
theorem AfterOutage.recovered (h : AfterOutage start batchSize calm first solo)
    (hstart : start.nano < nanosPerSecond) : Recovered first solo := by
  obtain ⟨hcalm, hwaiting⟩ := h.reachable.waiting h.clock hstart
  obtain ⟨hsound, hwaiting⟩ := h.available.waiting hcalm h.empty hwaiting
  -- The deadline of all rows has passed, so the claim yields all that are unsent.
  have hclaim : (Store.mk first.rows none).claim batchSize first.world.clock = first.unsent := by
    rw [Store.claim_eligible hwaiting.chronological.sorted fun row hm hs =>
      hwaiting.isEligible h.late hm hs (h.counted row hm)]
    have hbatch := h.batch
    exact List.take_of_length_le (Int.le_toNat (by omega) |>.mpr hbatch)
  rcases h.tick.inTick hsound h.idle hclaim (Nat.le_refl _) with ⟨hzero, -⟩ | hdone
  · omega
  · have hfinished := hdone.course.eq_finished
    have haccepted : accepted solo.journal = accepted first.journal ++ first.unsent := by
      rw [← hdone.messages, hfinished, Stage.ahead_of_rows rfl, List.append_nil]
    constructor
    case finished => exact hfinished
    case accepted => exact haccepted
    case messages => rw [hdone.sound.sent, haccepted, List.map_append, hsound.sent]
    case order => exact hsound.pairwise_unsent hwaiting.chronological
    case ids => exact hdone.ids
    case sent =>
      intro row hm
      by_contra hs
      have hheld := hdone.held row hm hs
      rw [hfinished] at hheld
      cases hheld

section Blackout

/-- An empty store, a broker that is down, and two transactions with an event each. -/
def blackout (now : Instant) : Solo where
  world :=
    let world := World.start now now (.memory (.empty none)) none
    { world with
      broker := { world.broker with available := false }
      transactions := [("early", ⟨[hiring 1]⟩), ("late", ⟨[hiring 2]⟩)] }
  stage := .idle
  journal := []

/-- A transaction is committed. -/
def commit (name : String) (solo : Solo) : Solo :=
  { solo with world := solo.world.commitTransaction name }

/-- The clock is set. -/
def setClock (now : Instant) (solo : Solo) : Solo :=
  { solo with world := { solo.world with clock := now } }

/-- Time passes while the broker accepts every message. -/
private theorem Leads.setClock {now : Instant} (h : Leads none World.Accepting first solo)
    (hle : solo.world.clock ≤ now) : Leads none World.Accepting first (solo.setClock now) :=
  h.step (.change _ ⟨rfl, rfl⟩) hle ⟨h.holds.available, h.holds.unrejected⟩

/-- The clock is set, and the broker is up again. -/
def restore (now : Instant) (solo : Solo) : Solo :=
  { solo with
    world := { solo.world with
      clock := now, broker := { solo.world.broker with available := true } } }

/-- The publisher makes the five steps of a tick with one row at each of some instants. -/
def attempts : List Instant → Solo → Solo
  | [], solo => solo
  | now :: later, solo => attempts later ((Solo.advance none 10)^[5] (solo.setClock now))

/-- Ticks at instants that follow each other, and then the broker is up again. -/
private theorem Reachable.attempts (instants : List Instant) {after : Instant}
    (h : Reachable none World.Clocked solo)
    (hsorted : (solo.world.clock :: instants ++ [after]).IsChain (· ≤ ·))
    (hclocked : ∀ now ∈ instants ++ [after], now.nano < 2 * nanosPerSecond) :
    Reachable none World.Clocked ((solo.attempts instants).restore after) := by
  induction instants generalizing solo with
  | nil =>
    have hle : solo.world.clock ≤ after := (List.isChain_cons_cons.mp hsorted).1
    exact h.step (.change _ ⟨rfl, rfl⟩) hle (hclocked after List.mem_cons_self)
  | cons now later ih =>
    obtain ⟨hle, hlater⟩ := List.isChain_cons_cons.mp hsorted
    have hnow : now.nano < 2 * nanosPerSecond := hclocked now List.mem_cons_self
    have hset : Reachable none World.Clocked (solo.setClock now) :=
      h.step (.change _ ⟨rfl, rfl⟩) hle hnow
    have hclock := clock_iterate none 10 5 (solo.setClock now)
    apply ih
    · apply hset.advances 10 5
      intro made
      rw [World.Clocked, clock_iterate]
      exact hnow
    · rw [hclock]
      exact hlater
    · exact fun other hm => hclocked other (List.mem_cons_of_mem now hm)

/-- The store has a row, which cannot be sent. -/
private theorem reachable_early {now : Instant} (hn : now.nano < 2 * nanosPerSecond) :
    Reachable none World.Clocked ((blackout now).commit "early") := by
  have hblackout : Reachable none World.Clocked (blackout now) := .start _ rfl rfl hn
  have hstaged : (blackout now).world.staged "early" = [hiring 1] := rfl
  have hrows : (blackout now).rows = [] := rfl
  apply hblackout.step (.commit "early" _ _ _) (Instant.le_refl now) hn
  · simp [hstaged, hiring]
  · simp [hstaged]
  · simp [hrows]

/-- A row fails and the broker is up again ten seconds later. -/
def relit : Solo :=
  (((blackout ⟨1784105400, 0⟩).commit "early").attempts [⟨1784105400, 0⟩]).restore
    ⟨1784105410, 0⟩

/-- Another row is committed, and 150 seconds pass. -/
def settled : Solo := (relit.commit "late").setClock ⟨1784105560, 0⟩

theorem afterOutage_settled :
    AfterOutage ⟨1784105410, 0⟩ 10 relit settled ((Solo.advance none 10)^[6] settled) := by
  have hcommitted : Leads none World.Accepting relit (relit.commit "late") :=
    .step (.refl (by constructor <;> decide +kernel))
      (.commit "late" (by decide +kernel) (by decide +kernel) (by decide +kernel))
      (by decide +kernel) (by constructor <;> decide +kernel)
  have hunsent : settled.unsent.length = 2 := by decide +kernel
  constructor
  case reachable => exact (reachable_early (by decide)).attempts _ (by decide +kernel) (by decide)
  case empty => decide +kernel
  case clock => decide +kernel
  case available =>
    exact hcommitted.setClock (by decide +kernel)
  case idle => decide +kernel
  case late => decide +kernel
  case counted => decide +kernel
  case batch => rw [hunsent]; decide
  case tick =>
    have hsteady : settled.world.Steady := by
      refine ⟨⟨⟨?_, ?_⟩, ?_, ?_, ?_⟩, ?_⟩ <;> decide +kernel
    rw [hunsent]
    exact ticking_of_steady hsteady 10 6

/-- The row that failed and the one that was committed since are both sent by the next tick. -/
theorem settled_recovered :
    settled.unsent.map (fun row => (row.id, row.retryCount)) =
        [(Uuid.reserved 1, 1), (Uuid.reserved 2, 0)] ∧
      Recovered settled ((Solo.advance none 10)^[6] settled) :=
  ⟨by decide +kernel, afterOutage_settled.recovered (by decide)⟩

/-- A row fails ten times, the last time just before a leap second, within which the broker is up
again. -/
def leaping : Solo :=
  (((blackout ⟨1483225200, 0⟩).commit "early").attempts
    ((List.range 9).map (fun count => ⟨1483225200 + 150 * count, 0⟩) ++
      [⟨1483228799, 900000000⟩])).restore ⟨1483228799, 1500000000⟩

/-- The clock reads 150 seconds more. -/
def leapt : Solo := leaping.setClock ⟨1483228949, 500000000⟩

theorem afterOutage_leapt :
    AfterOutage ⟨1483228799, 1500000000⟩ 10 leaping leapt ((Solo.advance none 10)^[4] leapt) := by
  have hunsent : leapt.unsent.length = 1 := by decide +kernel
  constructor
  case reachable => exact (reachable_early (by decide)).attempts _ (by decide +kernel) (by decide)
  case empty => decide +kernel
  case clock => decide +kernel
  case available =>
    have hleaping : Leads none World.Accepting leaping leaping :=
      .refl (by constructor <;> decide +kernel)
    exact hleaping.setClock (by decide +kernel)
  case idle => decide +kernel
  case late => decide +kernel
  case counted => decide +kernel
  case batch => rw [hunsent]; decide
  case tick =>
    have hsteady : leapt.world.Steady := by
      refine ⟨⟨⟨?_, ?_⟩, ?_, ?_, ?_⟩, ?_⟩ <;> decide +kernel
    rw [hunsent]
    exact ticking_of_steady hsteady 10 4

/-- In a leap second, 150 seconds may begin that are too few: the row is not yet due. -/
theorem not_always_recovered :
    ¬ ∀ (start : Instant) (batchSize : Int) (calm first solo : Solo),
      AfterOutage start batchSize calm first solo → Recovered first solo := by
  intro h
  have hsent := (h _ _ _ _ _ afterOutage_leapt).sent
  have hunsent : ¬ ∀ row ∈ ((Solo.advance none 10)^[4] leapt).rows, row.status = .sent := by
    decide +kernel
  exact hunsent hsent

end Blackout

end Solo
end Publisher
end HrPipeline
