import HrPipeline.Proofs.Publisher.Crew

/-!
# A publisher on its own

One publisher works on a store in memory, one call after the other, while transactions of new events
are committed and anything else in the world changes. Its journal tells what it claimed, which calls
it made and what it reported, with the readings of the clock. `Turn` says all that a step of the
publisher does to the rows. `Kept` says what is to be shown of the turns, of the commits and of the
passing of time for something to hold at all times (`Reachable.induct`), or from some point on
(`Leads.induct`).
-/

namespace HrPipeline

open HrPipeline.Broker HrPipeline.Calendar HrPipeline.Outbox

namespace Publisher

open HrPipeline.Scenario

/-- What a publisher did in one step. -/
structure Deed where
  /-- The reading of the clock. -/
  now : Instant
  /-- The rows that it claimed. -/
  claimed : List Row
  /-- The call that it made about a row. -/
  call? : Option Call
  /-- What it reported. -/
  notices : List Notice

/-- What there is to tell of a step, from where the publisher stands and the world before it to
those after it. -/
def Deed.between (stage : Stage) (world : World) (stage' : Stage) (world' : World) : Deed where
  now := world.clock
  claimed := match stage with
    | .idle => stage'.rows
    | .working _ _ | .recording _ _ _ _ | .finished _ => []
  call? := nextCall? World.outlet stage world
  notices := world.reportedSince world'

/-- What a publisher reports that has recorded a failure, or has failed to record it. -/
def failureNotice (ceiling : Option Int) (row : Row) (recorded : Bool) : Notice :=
  if recorded then
    if reachesCeiling ceiling (nextRetryCount row.retryCount) then .parked row.id
    else .publishFailed row.id
  else .failureNotRecorded row.id

/-- All that a step of a publisher does on a world whose store holds some rows: where it stands
before and after the step, the rows after it, and what there is to tell of it. -/
inductive Turn (ceiling : Option Int) (world : World) (rows : List Row) :
    Stage → Stage → List Row → Deed → Prop where
  /-- It makes no call about a row, and is left with none. -/
  | rest {stage stage' : Stage} {notices : List Notice} (hrows : stage'.rows = [])
      (hnotices : ∀ id, .parked id ∉ notices) :
      Turn ceiling world rows stage stage' rows ⟨world.clock, [], none, notices⟩
  /-- It claims what the store selects. -/
  | claim {batch : List Row} {report : Report} (batchSize : Int)
      (hbatch : batch = (Store.mk rows ceiling).claim batchSize world.clock) :
      Turn ceiling world rows .idle (.working batch report) rows ⟨world.clock, batch, none, []⟩
  /-- It sends the message of the first row that it holds. -/
  | send {row : Row} {outcome : Except BrokerError Unit} {rest : List Row} {report : Report}
      (houtcome : outcome = (world.send (Outbound.ofRow row)).1) :
      Turn ceiling world rows (.working (row :: rest) report) (.recording row outcome rest report)
        rows ⟨world.clock, [], some (.send row outcome.isOk), []⟩
  /-- It records an acceptance, or fails to. -/
  | sent {row : Row} {rest : List Row} {report report' : Report} {notice : Notice}
      (recorded : Bool) (hnotice : ∀ id, notice ≠ .parked id) :
      Turn ceiling world rows (.recording row (.ok ()) rest report) (.working rest report')
        (rows.map ((Call.markSent row.id recorded).change world.clock ""))
        ⟨world.clock, [], some (.markSent row.id recorded), [notice]⟩
  /-- It records a failure, or fails to. -/
  | failed {row : Row} {error : BrokerError} {rest : List Row} {report report' : Report}
      (recorded : Bool) :
      Turn ceiling world rows (.recording row (.error error) rest report) (.working rest report')
        (rows.map ((Call.markFailed row.id recorded).change world.clock error.message))
        ⟨world.clock, [], some (.markFailed row.id recorded),
          [failureNotice ceiling row recorded]⟩

section Advancing

variable {ceiling : Option Int} {batchSize : Int} {world world' : World} {rows : List Row}
  {stage stage' : Stage}

private theorem turn_working (hm : world.storage = .memory ⟨rows, ceiling⟩) (rest : List Row)
    (report : Report)
    (h : Publisher.advance World.outlet ceiling batchSize (.working rest report) world =
      (stage', world')) :
    ∃ rows', world'.storage = .memory ⟨rows', ceiling⟩ ∧
      Turn ceiling world rows (.working rest report) stage' rows'
        (.between (.working rest report) world stage' world') := by
  cases rest with
  | nil =>
    obtain ⟨rfl, rfl⟩ := h
    refine ⟨rows, hm, ?_⟩
    rw [Deed.between, World.reportedSince_of_eq rfl]
    exact .rest rfl (by simp)
  | cons row rest =>
    by_cases hc : World.outlet.cancelled world = true
    · simp only [Publisher.advance, if_pos hc, Prod.mk.injEq] at h
      obtain ⟨rfl, rfl⟩ := h
      refine ⟨rows, hm, ?_⟩
      rw [Deed.between, World.reportedSince_of_eq rfl]
      simp only [nextCall?, if_pos hc]
      exact .rest rfl (by simp)
    · rcases hs : World.outlet.send (Outbound.ofRow row) world with ⟨outcome, after⟩
      simp only [Publisher.advance, if_neg hc, hs, Prod.mk.injEq] at h
      obtain ⟨rfl, rfl⟩ := h
      refine ⟨rows, (World.send_memory hs).1.trans hm, ?_⟩
      rw [Deed.between, World.reportedSince_of_eq (World.reported_send hs)]
      simp only [nextCall?, if_neg hc, hs]
      exact .send (congrArg Prod.fst hs).symm

private theorem turn_recording (hm : world.storage = .memory ⟨rows, ceiling⟩)
    (hu : (rows.map (·.id)).Nodup) (row : Row) (outcome : Except BrokerError Unit)
    (rest : List Row) (report : Report)
    (h : Publisher.advance World.outlet ceiling batchSize (.recording row outcome rest report)
      world = (stage', world')) :
    ∃ rows', world'.storage = .memory ⟨rows', ceiling⟩ ∧
      Turn ceiling world rows (.recording row outcome rest report) stage' rows'
        (.between (.recording row outcome rest report) world stage' world') := by
  cases outcome with
  | ok accepted =>
    rcases hs : World.outlet.markSent row.id world with ⟨result, after⟩
    have hrecord : ∃ report' notice, (∀ id, notice ≠ .parked id) ∧
        stage' = .working rest report' ∧ world' = after.note notice := by
      simp only [Publisher.advance, record, hs] at h
      cases result <;> obtain ⟨rfl, rfl⟩ := h
      · exact ⟨_, .notRecordedAsSent row.id, by simp, rfl, rfl⟩
      · exact ⟨_, .published row.id, by simp, rfl, rfl⟩
    obtain ⟨report', notice, hnotice, rfl, rfl⟩ := hrecord
    refine ⟨_, (World.markSent_memory hm hu hs).2, ?_⟩
    rw [Deed.between, World.reportedSince_note notice (World.reported_markSent hs)]
    simp only [nextCall?, hs]
    exact .sent result.isOk hnotice
  | error error =>
    rcases hs : World.outlet.markFailed row.id error.message world with ⟨result, after⟩
    have hrecord : ∃ report', stage' = .working rest report' ∧
        world' = after.note (failureNotice ceiling row result.isOk) := by
      simp only [Publisher.advance, record, hs] at h
      cases result with
      | error _ =>
        obtain ⟨rfl, rfl⟩ := h
        exact ⟨_, rfl, rfl⟩
      | ok _ =>
        have hok : (Except.ok () : Except OutboxError Unit).isOk = true := rfl
        simp only [failureNotice, hok, if_true]
        simp only at h
        split at h <;> obtain ⟨rfl, rfl⟩ := h
        · next hceiling => exact ⟨_, rfl, by rw [if_pos hceiling]; rfl⟩
        · next hceiling => exact ⟨_, rfl, by rw [if_neg hceiling]; rfl⟩
    obtain ⟨report', rfl, rfl⟩ := hrecord
    refine ⟨_, (World.markFailed_memory hm hu hs).2, ?_⟩
    rw [Deed.between, World.reportedSince_note _ (World.reported_markFailed hs)]
    simp only [nextCall?, hs]
    exact .failed result.isOk

/-- Every step of a publisher is a turn. -/
theorem turn (hm : world.storage = .memory ⟨rows, ceiling⟩) (hu : (rows.map (·.id)).Nodup)
    (h : Publisher.advance World.outlet ceiling batchSize stage world = (stage', world')) :
    ∃ rows', world'.storage = .memory ⟨rows', ceiling⟩ ∧
      Turn ceiling world rows stage stage' rows' (.between stage world stage' world') := by
  cases stage with
  | idle =>
    by_cases hc : World.outlet.cancelled world = true
    · simp only [Publisher.advance, if_pos hc, Prod.mk.injEq] at h
      obtain ⟨rfl, rfl⟩ := h
      refine ⟨rows, hm, ?_⟩
      rw [Deed.between, World.reportedSince_of_eq rfl]
      exact .rest rfl (by simp)
    · simp only [Publisher.advance, if_neg hc] at h
      rcases World.claim_memory_cases hm batchSize with
        ⟨-, error, failed, hclaim, hrecord, hreported⟩ | hclaim
      · rw [show World.outlet.claim batchSize world = _ from hclaim] at h
        obtain ⟨rfl, rfl⟩ := h
        refine ⟨rows, hrecord.storage.trans hm, ?_⟩
        rw [Deed.between, World.reportedSince_of_eq hreported]
        exact .rest rfl (by simp)
      · rw [show World.outlet.claim batchSize world = _ from hclaim] at h
        obtain ⟨rfl, rfl⟩ := h
        refine ⟨rows, hm, ?_⟩
        rw [Deed.between, World.reportedSince_of_eq rfl]
        exact .claim batchSize rfl
  | working rest report => exact turn_working hm rest report h
  | recording row outcome rest report => exact turn_recording hm hu row outcome rest report h
  | finished result =>
    obtain ⟨rfl, rfl⟩ := h
    refine ⟨rows, hm, ?_⟩
    have hnotices : world.reportedSince (World.outlet.note (tickNotice result) world) =
        [tickNotice result] := World.reportedSince_note (tickNotice result) rfl
    rw [Deed.between, hnotices]
    refine .rest rfl fun id => ?_
    unfold tickNotice
    split
    · split <;> simp
    · simp

end Advancing

/-- A turn keeps the identifiers of all rows. -/
theorem Turn.ids {ceiling : Option Int} {world : World} {rows rows' : List Row}
    {stage stage' : Stage} {deed : Deed} (h : Turn ceiling world rows stage stage' rows' deed) :
    rows'.map (·.id) = rows.map (·.id) := by
  cases h with
  | rest _ _ | claim _ _ | send _ => rfl
  | sent _ _ | failed _ => exact Call.ids_change _ _ _ rows

/-- A publisher that works alone on a world, with what it has done. -/
structure Solo where
  world : World
  stage : Stage
  journal : List Deed

namespace Solo

/-- The rows of the store. -/
def rows (solo : Solo) : List Row := solo.world.storage.rows

/-- The rows whose messages were accepted, in order. -/
def accepted (journal : List Deed) : List Row :=
  journal.filterMap fun deed => deed.call?.bind Call.accepted?

/-- The publisher makes its next call. -/
def advance (ceiling : Option Int) (batchSize : Int) (solo : Solo) : Solo :=
  let (stage, world) := Publisher.advance World.outlet ceiling batchSize solo.stage solo.world
  { world, stage, journal := solo.journal ++ [.between solo.stage solo.world stage world] }

/-- No call takes any time. -/
theorem clock_advance (ceiling : Option Int) (batchSize : Int) (solo : Solo) :
    (solo.advance ceiling batchSize).world.clock = solo.world.clock := by
  apply advance_keeps World.outlet ceiling batchSize fun world => world.clock = solo.world.clock
  case hclaim => exact fun world h => (World.clock_claim batchSize world).trans h
  case hsend => exact fun message world h => (World.clock_send message world).trans h
  case hsent => exact fun id world h => (World.clock_markSent id world).trans h
  case hfailed => exact fun id reason world h => (World.clock_markFailed id reason world).trans h
  case hnote => exact fun _ _ h => h
  case h => rfl

theorem clock_iterate (ceiling : Option Int) (batchSize : Int) (calls : Nat) (solo : Solo) :
    ((Solo.advance ceiling batchSize)^[calls] solo).world.clock = solo.world.clock := by
  induction calls with
  | zero => rfl
  | succ calls ih => rw [Function.iterate_succ_apply', clock_advance, ih]

/-- What can happen next. -/
inductive Step (ceiling : Option Int) (solo : Solo) : Solo → Prop where
  /-- The publisher makes its next call. -/
  | advance (batchSize : Int) : Step ceiling solo (solo.advance ceiling batchSize)
  /-- A transaction of pending events with new identifiers is committed. The clock is read in the
  same step; no other commit comes between. -/
  | commit (name : String) (hp : ∀ draft ∈ solo.world.staged name, draft.status = .pending)
      (hu : ((solo.world.staged name).map (·.id)).Nodup)
      (hf : ∀ draft ∈ solo.world.staged name, ∀ row ∈ solo.rows, row.id ≠ draft.id) :
      Step ceiling solo { solo with world := solo.world.commitTransaction name }
  /-- Anything but the rows and the accepted messages changes. -/
  | change (world : World) (h : solo.world.SameRecord world) :
      Step ceiling solo { solo with world }

/-- What a publisher comes to that starts with an empty store in memory, both with the same ceiling
on attempts, while the clock never goes back and the world stays as it is required to be. -/
inductive Reachable (ceiling : Option Int) (required : World → Prop) : Solo → Prop where
  | start (world : World) (hw : world.storage = .memory (.empty ceiling))
      (hb : world.broker.sent = []) (hr : required world) :
      Reachable ceiling required ⟨world, .idle, []⟩
  | step {solo solo' : Solo} (h : Reachable ceiling required solo) (hs : Step ceiling solo solo')
      (hclock : solo.world.clock ≤ solo'.world.clock) (hr : required solo'.world) :
      Reachable ceiling required solo'

variable {ceiling : Option Int} {required : World → Prop} {solo solo' : Solo}

/-- What holds of the world at all times. -/
structure Sound (ceiling : Option Int) (required : World → Prop) (solo : Solo) : Prop where
  memory : solo.world.storage = .memory ⟨solo.rows, ceiling⟩
  unique : (solo.rows.map (·.id)).Nodup
  sent : solo.world.broker.sent = (accepted solo.journal).map Outbound.ofRow
  required : required solo.world

theorem accepted_append (journal : List Deed) (deed : Deed) :
    accepted (journal ++ [deed]) =
      accepted journal ++ (deed.call?.bind Call.accepted?).toList := by
  unfold accepted
  cases h : deed.call?.bind Call.accepted? <;> simp [h]

/-- The world after a step of the publisher, which is a turn. -/
theorem Sound.advance (h : solo.Sound ceiling required) (batchSize : Int)
    (hr : required (solo.advance ceiling batchSize).world) :
    (solo.advance ceiling batchSize).Sound ceiling required ∧
      ∃ deed, (solo.advance ceiling batchSize).journal = solo.journal ++ [deed] ∧
        Turn ceiling solo.world solo.rows solo.stage (solo.advance ceiling batchSize).stage
          (solo.advance ceiling batchSize).rows deed := by
  rcases ha : Publisher.advance World.outlet ceiling batchSize solo.stage solo.world with
    ⟨stage, world⟩
  have hadvance : solo.advance ceiling batchSize =
      ⟨world, stage, solo.journal ++ [.between solo.stage solo.world stage world]⟩ := by
    simp only [Solo.advance, ha]
  obtain ⟨rows, hstorage, hturn⟩ := turn h.memory h.unique ha
  have hrows : rows = world.storage.rows := by
    rw [hstorage]
    rfl
  subst hrows
  have hsent := (advanced h.memory h.unique ha).sent
  rw [hadvance] at hr ⊢
  refine ⟨⟨hstorage, ?_, ?_, hr⟩, _, rfl, hturn⟩
  · show (world.storage.rows.map (·.id)).Nodup
    rw [hturn.ids]
    exact h.unique
  · rw [accepted_append, List.map_append, ← h.sent]
    exact hsent

/-- The identifiers after a commit. -/
private theorem nodup_commit (h : solo.Sound ceiling required) {drafts : List Draft}
    (hu : (drafts.map (·.id)).Nodup)
    (hf : ∀ draft ∈ drafts, ∀ row ∈ solo.rows, row.id ≠ draft.id) :
    (solo.rows.map (·.id) ++ drafts.map (·.id)).Nodup := by
  refine List.nodup_append'.mpr ⟨h.unique, hu, ?_⟩
  intro id hold hnew
  obtain ⟨row, hr, rfl⟩ := List.mem_map.mp hold
  obtain ⟨draft, hd, he⟩ := List.mem_map.mp hnew
  exact hf draft hd row hr he.symm

/-- The world after a commit, with the rows of the drafts after the others. -/
private theorem Sound.commit (h : solo.Sound ceiling required) {name : String}
    (hids : (solo.rows.map (·.id) ++ (solo.world.staged name).map (·.id)).Nodup)
    (hr : required (solo.world.commitTransaction name)) :
    Sound ceiling required { solo with world := solo.world.commitTransaction name } ∧
      rows { solo with world := solo.world.commitTransaction name } =
        solo.rows ++ (solo.world.staged name).map (Row.ofDraft · solo.world.clock) := by
  obtain ⟨hstorage, hbroker, -⟩ := World.commitTransaction_memory h.memory name
  have hrows : rows { solo with world := solo.world.commitTransaction name } =
      solo.rows ++ (solo.world.staged name).map (Row.ofDraft · solo.world.clock) := by
    rw [rows, hstorage]
    rfl
  refine ⟨⟨?_, ?_, ?_, hr⟩, hrows⟩
  · rw [hrows]
    exact hstorage
  · rw [hrows, List.map_append, List.map_map]
    exact hids
  · show (solo.world.commitTransaction name).broker.sent = _
    rw [hbroker]
    exact h.sent

/-- The world after a change of anything but the rows and the accepted messages. -/
theorem Sound.change {before : World → Prop} (h : solo.Sound ceiling before) {world : World}
    (hw : solo.world.SameRecord world) (hr : required world) :
    Sound ceiling required { solo with world } := by
  have hrows : world.storage.rows = solo.rows := congrArg Storage.rows hw.storage
  refine ⟨?_, ?_, hw.sent.trans h.sent, hr⟩
  · show world.storage = .memory ⟨world.storage.rows, ceiling⟩
    rw [hrows, hw.storage]
    exact h.memory
  · show (world.storage.rows.map (·.id)).Nodup
    rw [hrows]
    exact h.unique

/-- What every turn, every commit and the passing of time keep. -/
structure Kept (ceiling : Option Int) (required : World → Prop)
    (Holds : List Row → Stage → List Deed → Instant → Prop) : Prop where
  turn : ∀ {world rows rows' stage stage' journal deed}, required world →
    (rows.map (·.id)).Nodup → Holds rows stage journal world.clock →
    Turn ceiling world rows stage stage' rows' deed →
    Holds rows' stage' (journal ++ [deed]) world.clock
  commit : ∀ {rows stage journal now} (drafts : List Draft),
    (∀ draft ∈ drafts, draft.status = .pending) →
    (rows.map (·.id) ++ drafts.map (·.id)).Nodup → Holds rows stage journal now →
    Holds (rows ++ drafts.map (Row.ofDraft · now)) stage journal now
  wait : ∀ {rows stage journal now later}, now ≤ later → Holds rows stage journal now →
    Holds rows stage journal later

variable {Holds : List Row → Stage → List Deed → Instant → Prop}

/-- What is kept by all that a step consists of is kept by the step. -/
theorem Kept.step (hk : Kept ceiling required Holds) (hsound : solo.Sound ceiling required)
    (hholds : Holds solo.rows solo.stage solo.journal solo.world.clock)
    (hs : Step ceiling solo solo') (hclock : solo.world.clock ≤ solo'.world.clock)
    (hr : required solo'.world) :
    solo'.Sound ceiling required ∧
      Holds solo'.rows solo'.stage solo'.journal solo'.world.clock := by
  cases hs with
  | advance batchSize =>
    obtain ⟨hsound', deed, hjournal, hturn⟩ := hsound.advance batchSize hr
    refine ⟨hsound', hk.wait hclock ?_⟩
    rw [hjournal]
    exact hk.turn hsound.required hsound.unique hholds hturn
  | commit name hp hu hf =>
    have hids := nodup_commit hsound hu hf
    obtain ⟨hsound', hrows⟩ := hsound.commit hids hr
    refine ⟨hsound', hk.wait hclock ?_⟩
    rw [hrows]
    exact hk.commit _ hp hids hholds
  | change world hw =>
    have hrows : world.storage.rows = solo.rows := congrArg Storage.rows hw.storage
    refine ⟨hsound.change hw hr, hk.wait hclock ?_⟩
    show Holds world.storage.rows _ _ _
    rw [hrows]
    exact hholds

/-- What holds at the start and is kept holds at all times. -/
theorem Reachable.induct (Holds : List Row → Stage → List Deed → Instant → Prop)
    (start : ∀ now, Holds [] .idle [] now) (hk : Kept ceiling required Holds)
    (h : Reachable ceiling required solo) :
    solo.Sound ceiling required ∧ Holds solo.rows solo.stage solo.journal solo.world.clock := by
  induction h with
  | start world hw hb hr =>
    have hrows : rows ⟨world, .idle, []⟩ = [] := by
      rw [rows, hw]
      rfl
    refine ⟨⟨?_, ?_, hb, hr⟩, ?_⟩
    · rw [hrows]
      exact hw
    · simp [hrows]
    · rw [hrows]
      exact start world.clock
  | step _ hs hclock hr ih => exact hk.step ih.1 ih.2 hs hclock hr

/-- A publisher makes a number of calls. -/
theorem Reachable.advances (batchSize : Int) (calls : Nat) (h : Reachable ceiling required solo)
    (hr : ∀ made, required ((Solo.advance ceiling batchSize)^[made] solo).world) :
    Reachable ceiling required ((Solo.advance ceiling batchSize)^[calls] solo) := by
  induction calls with
  | zero => exact h
  | succ calls ih =>
    have hrequired := hr (calls + 1)
    rw [Function.iterate_succ_apply'] at hrequired ⊢
    apply ih.step (.advance batchSize) _ hrequired
    rw [clock_advance]
    exact Instant.le_refl _

/-- What a publisher comes to from some point on, likewise. -/
inductive Leads (ceiling : Option Int) (required : World → Prop) (first : Solo) : Solo → Prop where
  | refl (hr : required first.world) : Leads ceiling required first first
  | step {solo solo' : Solo} (h : Leads ceiling required first solo) (hs : Step ceiling solo solo')
      (hclock : solo.world.clock ≤ solo'.world.clock) (hr : required solo'.world) :
      Leads ceiling required first solo'

theorem Leads.holds {first : Solo} (h : Leads ceiling required first solo) :
    required solo.world := by
  cases h with
  | refl hr => exact hr
  | step _ _ _ hr => exact hr

/-- What holds at some point and is kept holds from then on. -/
theorem Leads.induct {first : Solo} {before : World → Prop} (hk : Kept ceiling required Holds)
    (hsound : first.Sound ceiling before)
    (hholds : Holds first.rows first.stage first.journal first.world.clock)
    (h : Leads ceiling required first solo) :
    solo.Sound ceiling required ∧ Holds solo.rows solo.stage solo.journal solo.world.clock := by
  induction h with
  | refl hr => exact ⟨{ hsound with required := hr }, hholds⟩
  | step _ hs hclock hr ih => exact hk.step ih.1 ih.2 hs hclock hr

end Solo
end Publisher
end HrPipeline
