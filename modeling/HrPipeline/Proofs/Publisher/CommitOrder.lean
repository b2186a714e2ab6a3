import HrPipeline.Proofs.Publisher.Solo

/-!
# First in, first out

A publisher whose broker accepts every message sends the rows of the outbox in the order in which
they were committed. A row may be sent again, if its acceptance could not be recorded, and then
comes before rows that were never sent; but no row is sent for the first time before an earlier one.

`InLine` states this of identifiers: those accepted so far are the first ones in the order of the
commits, and what is left of a batch are some of these and then the next ones in the order.
-/

namespace HrPipeline

open HrPipeline.Broker HrPipeline.Calendar HrPipeline.Outbox

namespace Scenario.World

/-- The broker accepts every message. -/
structure Accepting (world : World) : Prop where
  available : world.broker.available = true
  unrejected : world.faults.rejectedTopics = []

theorem Accepting.send {world : World} (h : world.Accepting) (message : Outbound) :
    (world.send message).1 = .ok () := by
  simp [World.send, deliver, Log.send, h.available, h.unrejected]

end Scenario.World

namespace Outbox

/-- The first occurrences of a list with one entry more. -/
private theorem eraseDups_concat (ids : List Uuid) (id : Uuid) :
    (ids ++ [id]).eraseDups = if id ∈ ids then ids.eraseDups else ids.eraseDups ++ [id] := by
  rw [List.eraseDups_append]
  split
  · next h => simp [List.removeAll, h]
  · next h => simp [List.removeAll, h, List.eraseDups_cons]

/-- The accepted identifiers, each at its first acceptance, are the first ones of an order, and a
batch consists of accepted ones and then of those that come next. -/
def InLine (order accepted batch : List Uuid) : Prop :=
  ∃ later again next, order = accepted.eraseDups ++ later ∧ batch = again ++ next ∧
    (∀ id ∈ again, id ∈ accepted) ∧ next <+: later

namespace InLine

variable {order accepted batch : List Uuid}

/-- A batch may be given up. -/
theorem drop (h : InLine order accepted batch) : InLine order accepted [] := by
  obtain ⟨later, -, -, horder, -⟩ := h
  exact ⟨later, [], [], horder, rfl, by simp, List.nil_prefix⟩

/-- New identifiers come last. -/
theorem append (h : InLine order accepted batch) (ids : List Uuid) :
    InLine (order ++ ids) accepted batch := by
  obtain ⟨later, again, next, rfl, hbatch, hagain, hnext⟩ := h
  exact ⟨later ++ ids, again, next, List.append_assoc .., hbatch, hagain,
    hnext.trans (List.prefix_append later ids)⟩

/-- The first identifier of a batch was accepted before, or it is the next one in the order. -/
theorem accept {id : Uuid} (h : InLine order accepted (id :: batch)) (hu : order.Nodup) :
    InLine order (accepted ++ [id]) batch := by
  obtain ⟨later, again, next, horder, hbatch, hagain, hnext⟩ := h
  cases again with
  | cons first again =>
    obtain ⟨rfl, rfl⟩ := List.cons.inj hbatch
    have hid : id ∈ accepted := hagain id List.mem_cons_self
    refine ⟨later, again, next, ?_, rfl, ?_, hnext⟩
    · rw [eraseDups_concat, if_pos hid, horder]
    · intro other hm
      exact List.mem_append_left _ (hagain other (List.mem_cons_of_mem _ hm))
  | nil =>
    obtain rfl : next = id :: batch := hbatch.symm
    obtain ⟨rest, rfl⟩ := hnext
    -- It is not among the accepted ones, for the order names each identifier once.
    have hid : id ∉ accepted := by
      rw [horder] at hu
      intro hm
      exact (List.nodup_append'.mp hu).2.2 (List.mem_eraseDups.mpr hm) (by simp)
    refine ⟨batch ++ rest, [], batch, ?_, rfl, by simp, List.prefix_append batch rest⟩
    rw [eraseDups_concat, if_neg hid, horder]
    simp

/-- The first ones of all that are not excluded, where none is excluded but accepted ones, make a
new batch. -/
theorem select {rows : List Row} (h : InLine (rows.map (·.id)) accepted batch)
    (hu : (rows.map (·.id)).Nodup) {kept : Row → Bool}
    (hk : ∀ row ∈ rows, row.id ∉ accepted → kept row = true) (limit : Nat) :
    InLine (rows.map (·.id)) accepted (((rows.filter kept).take limit).map (·.id)) := by
  obtain ⟨later, -, -, horder, -⟩ := h
  obtain ⟨first, last, rfl, hfirst, hlast⟩ := List.map_eq_append_iff.mp horder
  have hall : last.filter kept = last := by
    refine List.filter_eq_self.mpr fun row hm => hk row (List.mem_append_right _ hm) fun ha => ?_
    rw [horder] at hu
    refine (List.nodup_append'.mp hu).2.2 (List.mem_eraseDups.mpr ha) ?_
    rw [← hlast]
    exact List.mem_map_of_mem hm
  refine ⟨later, ((first.filter kept).take limit).map (·.id),
    (last.take (limit - (first.filter kept).length)).map (·.id), horder, ?_, ?_, ?_⟩
  · rw [List.filter_append, hall, List.take_append, List.map_append]
  · intro id hm
    obtain ⟨row, hr, rfl⟩ := List.mem_map.mp hm
    have hf : row ∈ first := List.mem_of_mem_filter (List.mem_of_mem_take hr)
    rw [← List.mem_eraseDups, ← hfirst]
    exact List.mem_map_of_mem hf
  · rw [← hlast]
    exact (List.take_prefix _ last).map _

end InLine

/-- Rows are in the order in which they were committed, none of them after an instant. -/
structure Chronological (rows : List Row) (now : Instant) : Prop where
  sorted : rows.Pairwise fun a b => a.createdAt ≤ b.createdAt
  past : ∀ row ∈ rows, row.createdAt ≤ now

namespace Chronological

variable {rows : List Row} {now : Instant}

theorem later {later : Instant} (h : Chronological rows now) (hle : now ≤ later) :
    Chronological rows later :=
  ⟨h.sorted, fun row hm => Instant.le_trans (h.past row hm) hle⟩

/-- A change does not touch the order if it leaves the instants of the commits alone. -/
theorem map (h : Chronological rows now) {change : Row → Row}
    (hc : ∀ row ∈ rows, (change row).createdAt = row.createdAt) :
    Chronological (rows.map change) now := by
  refine ⟨?_, List.forall_mem_map.mpr fun row hm => ?_⟩
  · rw [List.pairwise_map]
    refine h.sorted.imp_of_mem fun ha hb hab => ?_
    rw [hc _ ha, hc _ hb]
    exact hab
  · rw [hc row hm]
    exact h.past row hm

/-- The rows of a commit come last. -/
theorem commit (h : Chronological rows now) (drafts : List Draft) :
    Chronological (rows ++ drafts.map (Row.ofDraft · now)) now := by
  have hnew : ∀ row ∈ drafts.map (Row.ofDraft · now), row.createdAt = now :=
    List.forall_mem_map.mpr fun _ _ => rfl
  refine ⟨List.pairwise_append.mpr ⟨h.sorted, ?_, fun a ha b hb => ?_⟩, ?_⟩
  · refine List.pairwise_of_forall_mem_list fun a ha b hb => ?_
    rw [hnew a ha, hnew b hb]
    exact Instant.le_refl now
  · rw [hnew b hb]
    exact h.past a ha
  · refine List.forall_mem_append.mpr ⟨h.past, fun row hm => ?_⟩
    rw [hnew row hm]
    exact Instant.le_refl now

end Chronological

/-- A store all of whose unsent rows are eligible yields the oldest of them: those that were
committed first. -/
theorem Store.claim_eligible {rows : List Row} {ceiling : Option Int} {now : Instant}
    (hsorted : rows.Pairwise fun a b => a.createdAt ≤ b.createdAt)
    (heligible : ∀ row ∈ rows, row.status ≠ .sent → row.isEligible ceiling now = true)
    (limit : Int) :
    (Store.mk rows ceiling).claim limit now =
      (rows.filter fun row => row.status ≠ .sent).take limit.toNat := by
  have hfilter : rows.filter (·.isEligible ceiling now) =
      rows.filter fun row => row.status ≠ .sent := by
    refine List.filter_congr fun row hm => ?_
    by_cases hs : row.status = .sent
    · simp [Row.isEligible, Row.isClaimable, hs]
    · simp [heligible row hm hs, hs]
  have holdest : oldestFirst (rows.filter fun row => row.status ≠ .sent) =
      rows.filter fun row => row.status ≠ .sent :=
    List.mergeSort_of_pairwise ((hsorted.imp fun h => decide_eq_true h).filter _)
  unfold Store.claim
  simp only [hfilter, holdest]

/-- A store without a ceiling whose rows were never tried yields its oldest unsent ones. -/
theorem Store.claim_untried {rows : List Row}
    (hsorted : rows.Pairwise fun a b => a.createdAt ≤ b.createdAt)
    (huntried : ∀ row ∈ rows, row.retryCount = 0 ∧ row.nextRetryAt = none)
    (limit : Int) (now : Instant) :
    (Store.mk rows none).claim limit now =
      (rows.filter fun row => row.status ≠ .sent).take limit.toNat := by
  refine Store.claim_eligible hsorted (fun row hm hs => ?_) limit
  obtain ⟨hcount, hdue⟩ := huntried row hm
  simp [Row.isEligible, Row.isClaimable, hs, hcount, hdue, maxRetryCount]

end Outbox

namespace Publisher

open HrPipeline.Scenario

namespace Stage

/-- The rows whose messages a publisher has yet to send. -/
def ahead : Stage → List Row
  | idle | finished _ => []
  | working rest _ | recording _ _ rest _ => rest

theorem ahead_of_rows {stage : Stage} (h : stage.rows = []) : stage.ahead = [] := by
  cases stage with
  | idle | finished _ => rfl
  | working rest _ => exact h
  | recording row _ rest _ => cases h

end Stage

namespace Solo

/-- The identifiers of the rows whose messages were accepted, in order. -/
def acceptedIds (journal : List Deed) : List Uuid := (accepted journal).map (·.id)

/-- What holds at all times while the broker accepts every message. -/
structure Orderly (rows : List Row) (stage : Stage) (journal : List Deed) (now : Instant) :
    Prop where
  sorted : rows.Pairwise fun a b => a.createdAt ≤ b.createdAt
  past : ∀ row ∈ rows, row.createdAt ≤ now
  untried : ∀ row ∈ rows, row.retryCount = 0 ∧ row.nextRetryAt = none
  sent : ∀ row ∈ rows, row.status = .sent → row.id ∈ acceptedIds journal
  recording : ∀ row outcome rest report, stage = .recording row outcome rest report →
    outcome = .ok () ∧ row.id ∈ acceptedIds journal
  inLine : InLine (rows.map (·.id)) (acceptedIds journal) (stage.ahead.map (·.id))

variable {rows rows' : List Row} {stage stage' : Stage} {journal : List Deed} {now : Instant}

theorem acceptedIds_append (journal : List Deed) (deed : Deed) :
    acceptedIds (journal ++ [deed]) =
      acceptedIds journal ++ (deed.call?.bind Call.accepted?).toList.map (·.id) := by
  rw [acceptedIds, accepted_append, List.map_append]
  rfl

/-- A deed that gets no message accepted leaves the accepted ones as they are. -/
private theorem acceptedIds_quiet {deed : Deed} (h : deed.call?.bind Call.accepted? = none) :
    acceptedIds (journal ++ [deed]) = acceptedIds journal := by
  rw [acceptedIds_append, h]
  simp

/-- A turn that gets no message accepted and leaves the rows, or marks an accepted one as sent. -/
private theorem Orderly.mark (h : Orderly rows stage journal now) {deed : Deed}
    (hd : deed.call?.bind Call.accepted? = none)
    (hrecording : ∀ row outcome rest report, stage' ≠ .recording row outcome rest report)
    (change : Row → Row)
    (hchange : ∀ row ∈ rows, change row = row ∨
      row.id ∈ acceptedIds journal ∧ ∃ now, change row = row.markSent now)
    (hline : InLine (rows.map (·.id)) (acceptedIds journal) (stage'.ahead.map (·.id))) :
    Orderly (rows.map change) stage' (journal ++ [deed]) now := by
  have hquiet : acceptedIds (journal ++ [deed]) = acceptedIds journal := acceptedIds_quiet hd
  have hcreated : ∀ row ∈ rows, (change row).createdAt = row.createdAt := by
    intro row hm
    rcases hchange row hm with he | ⟨-, at_, he⟩ <;> rw [he]
    exact Row.createdAt_markSent row at_
  have hids : (rows.map change).map (·.id) = rows.map (·.id) := by
    rw [List.map_map]
    refine List.map_congr_left fun row hm => ?_
    show (change row).id = row.id
    rcases hchange row hm with he | ⟨-, at_, he⟩ <;> rw [he]
    exact Row.markSent_id at_ row
  have hchronological := Chronological.map ⟨h.sorted, h.past⟩ hcreated
  constructor
  case sorted => exact hchronological.sorted
  case past => exact hchronological.past
  case untried =>
    refine List.forall_mem_map.mpr fun row hm => ?_
    have hu := h.untried row hm
    rcases hchange row hm with he | ⟨-, at_, he⟩ <;> rw [he]
    · exact hu
    · refine ⟨(Row.retryCount_markSent row at_).trans hu.1, ?_⟩
      unfold Row.markSent
      split
      · exact hu.2
      · rfl
  case sent =>
    rw [hquiet]
    refine List.forall_mem_map.mpr fun row hm hs => ?_
    rcases hchange row hm with he | ⟨ha, at_, he⟩ <;> rw [he] at hs ⊢
    · exact h.sent row hm hs
    · rw [Row.markSent_id]
      exact ha
  case recording =>
    intro row outcome rest report hs
    exact absurd hs (hrecording row outcome rest report)
  case inLine =>
    rw [hids, hquiet]
    exact hline

/-- A turn that gets no message accepted and leaves the rows alone. -/
private theorem Orderly.quiet (h : Orderly rows stage journal now) {deed : Deed}
    (hd : deed.call?.bind Call.accepted? = none)
    (hrecording : ∀ row outcome rest report, stage' ≠ .recording row outcome rest report)
    (hline : InLine (rows.map (·.id)) (acceptedIds journal) (stage'.ahead.map (·.id))) :
    Orderly rows stage' (journal ++ [deed]) now := by
  have hmark := h.mark hd hrecording id (fun row _ => .inl rfl) hline
  rwa [List.map_id] at hmark

/-- Where the broker accepts every message, a turn keeps the order. -/
private theorem Orderly.turn {world : World} {deed : Deed} (hw : world.Accepting)
    (hu : (rows.map (·.id)).Nodup) (h : Orderly rows stage journal world.clock)
    (ht : Turn none world rows stage stage' rows' deed) :
    Orderly rows' stage' (journal ++ [deed]) world.clock := by
  cases ht with
  | rest hrows _ =>
    refine h.quiet rfl ?_ ?_
    · rintro row outcome rest report rfl
      cases hrows
    · rw [Stage.ahead_of_rows hrows]
      exact h.inLine.drop
  | claim batchSize hbatch =>
    refine h.quiet rfl (by simp) ?_
    rw [hbatch, Store.claim_untried h.sorted h.untried]
    refine h.inLine.select hu (fun row hm hn => ?_) _
    rw [decide_eq_true_eq]
    exact fun hs => hn (h.sent row hm hs)
  | @send row outcome rest report houtcome =>
    rw [hw.send] at houtcome
    subst houtcome
    have hids : acceptedIds (journal ++
        [⟨world.clock, [], some (.send row (Except.ok () : Except BrokerError Unit).isOk), []⟩]) =
        acceptedIds journal ++ [row.id] := acceptedIds_append journal _
    constructor
    case sorted => exact h.sorted
    case past => exact h.past
    case untried => exact h.untried
    case sent =>
      intro other hm hs
      rw [hids]
      exact List.mem_append_left _ (h.sent other hm hs)
    case recording =>
      intro other outcome rest report hs
      obtain ⟨rfl, rfl, -, -⟩ := Stage.recording.inj hs
      rw [hids]
      exact ⟨rfl, List.mem_append_right _ List.mem_cons_self⟩
    case inLine =>
      rw [hids]
      exact h.inLine.accept hu
  | @sent row rest report report' notice recorded hnotice =>
    refine h.mark rfl (by simp) _ (fun other _ => ?_) h.inLine
    refine (Call.change_markSent world.clock "" row.id recorded other).imp_right ?_
    rintro ⟨hid, he⟩
    refine ⟨?_, world.clock, he⟩
    rw [hid]
    exact (h.recording row _ _ _ rfl).2
  | failed recorded => exact nomatch (h.recording _ _ _ _ rfl).1

/-- A commit keeps the order: its rows are the latest. -/
private theorem Orderly.commit (h : Orderly rows stage journal now) (drafts : List Draft)
    (hp : ∀ draft ∈ drafts, draft.status = .pending) :
    Orderly (rows ++ drafts.map (Row.ofDraft · now)) stage journal now := by
  have hnew : ∀ row ∈ drafts.map (Row.ofDraft · now),
      row.status ≠ .sent ∧ row.retryCount = 0 ∧ row.nextRetryAt = none := by
    refine List.forall_mem_map.mpr fun draft hd => ⟨?_, rfl, rfl⟩
    show draft.status ≠ .sent
    simp [hp draft hd]
  have hchronological := Chronological.commit ⟨h.sorted, h.past⟩ drafts
  constructor
  case sorted => exact hchronological.sorted
  case past => exact hchronological.past
  case untried => exact List.forall_mem_append.mpr ⟨h.untried, fun row hm => (hnew row hm).2⟩
  case sent =>
    exact List.forall_mem_append.mpr ⟨h.sent, fun row hm hs => absurd hs (hnew row hm).1⟩
  case recording => exact h.recording
  case inLine =>
    rw [List.map_append]
    exact h.inLine.append _

variable {solo : Solo}

/-- The order holds at all times. -/
theorem Reachable.orderly (h : Reachable none World.Accepting solo) :
    solo.Sound none World.Accepting ∧
      Orderly solo.rows solo.stage solo.journal solo.world.clock := by
  refine h.induct Orderly ?start ⟨?turn, ?commit, ?wait⟩
  case start =>
    intro now
    exact ⟨.nil, by simp, by simp, by simp, by simp, [], [], [], rfl, rfl, by simp,
      List.nil_prefix⟩
  case turn => exact fun hw hu ho ht => ho.turn hw hu ht
  case commit => exact fun drafts hp _ ho => ho.commit drafts hp
  case wait =>
    intro rows stage journal now later hle ho
    exact { ho with past := fun row hm => Instant.le_trans (ho.past row hm) hle }

/-- First in, first out. While the broker accepts every message, whichever records of acceptance
fail and wherever ticks are stopped: the messages accepted at least once are those of the first rows
in the order of their commits, and they were first accepted in this order. -/
theorem Reachable.first_in_first_out (h : Reachable none World.Accepting solo) :
    solo.world.broker.sent = (accepted solo.journal).map Outbound.ofRow ∧
      ∃ count, ((accepted solo.journal).map (·.id)).eraseDups =
        (solo.rows.take count).map (·.id) := by
  obtain ⟨hsound, horderly⟩ := h.orderly
  obtain ⟨later, -, -, horder, -⟩ := horderly.inLine
  refine ⟨hsound.sent, (acceptedIds solo.journal).eraseDups.length, ?_⟩
  rw [List.map_take, horder, List.take_left]
  rfl

section Interrupted

/-- An idle publisher that has claimed a batch. -/
def holding (batch : List Row) (solo : Solo) : Solo where
  world := solo.world
  stage := .working batch { Report.empty with claimed := batch.length }
  journal := solo.journal ++ [⟨solo.world.clock, batch, none, []⟩]

/-- An idle publisher that nothing stops claims what the store selects. -/
theorem advance_of_claim {ceiling : Option Int} {batchSize : Int} {batch : List Row}
    (hm : solo.world.storage = .memory ⟨solo.rows, ceiling⟩) (hs : solo.stage = .idle)
    (hw : solo.world.shutdown.requested = false ∧ solo.world.faults.claim = 0)
    (hb : (Store.mk solo.rows ceiling).claim batchSize solo.world.clock = batch) :
    solo.advance ceiling batchSize = solo.holding batch := by
  have hclaim : World.outlet.claim batchSize solo.world = (.ok batch, solo.world) := by
    rcases World.claim_memory_cases hm batchSize with ⟨hfault, -⟩ | hclaim
    · omega
    · rw [← hb]
      exact hclaim
  have hcancelled : World.outlet.cancelled solo.world = false := hw.1
  simp only [Solo.advance, Publisher.advance, hs, hcancelled, Bool.false_eq_true, if_false, hclaim,
    Deed.between, World.reportedSince_of_eq]
  rfl

/-- An event about a new employee, enlisted under a number. -/
def hiring (number : Nat) : Draft :=
  ⟨Uuid.reserved number, none, "employee", "7", "employee.created", "hr", [123, 125], .pending⟩

/-- An empty store, and transactions with two events and with a third one. -/
def opening : Solo where
  world :=
    { World.start ⟨1784105400, 0⟩ ⟨1784105400, 0⟩ (.memory (.empty none)) none with
      transactions := [("both", ⟨[hiring 1, hiring 2]⟩), ("third", ⟨[hiring 3]⟩)] }
  stage := .idle
  journal := []

/-- Two rows are committed. -/
def committed : Solo := { opening with world := opening.world.commitTransaction "both" }

/-- Both rows are claimed and the first one is sent, but its acceptance is not going to be
recorded. -/
def unlucky : Solo :=
  let solo := (committed.holding committed.rows).advance none 2
  { solo with world := { solo.world with faults := { solo.world.faults with markSent := 1 } } }

/-- The third row is committed within the tick, and then a shutdown is requested. -/
def stopped : Solo :=
  let solo := unlucky.advance none 2
  let world := solo.world.commitTransaction "third"
  { solo with world := { world with shutdown := { world.shutdown with requested := true } } }

/-- The tick has ended, and nothing stops the next one. -/
def restarted : Solo :=
  let solo := (stopped.advance none 2).advance none 2
  { solo with world := { solo.world with shutdown := Shutdown.none } }

/-- The first row was sent again, and the second one for the first time. -/
def resumed : Solo :=
  (((restarted.holding (restarted.rows.take 2)).advance none 2).advance none 2).advance none 2

/-- A step after which the clock reads the same and the broker accepts every message. -/
private theorem Reachable.steady {solo solo' : Solo} (h : Reachable none World.Accepting solo)
    (hs : Step none solo solo')
    (hw : solo'.world.clock = solo.world.clock ∧ solo'.world.broker.available = true ∧
      solo'.world.faults.rejectedTopics = []) : Reachable none World.Accepting solo' :=
  .step h hs (hw.1 ▸ Instant.le_refl _) ⟨hw.2.1, hw.2.2⟩

/-- A step of the publisher, likewise. -/
private theorem Reachable.steadily {solo : Solo} (h : Reachable none World.Accepting solo)
    (hw : (solo.advance none 2).world.clock = solo.world.clock ∧
      (solo.advance none 2).world.broker.available = true ∧
      (solo.advance none 2).world.faults.rejectedTopics = []) :
    Reachable none World.Accepting (solo.advance none 2) :=
  h.steady (.advance 2) hw

/-- A claim by an idle publisher, likewise. -/
private theorem Reachable.claims {solo : Solo} {batch : List Row}
    (h : Reachable none World.Accepting solo) (hs : solo.stage = .idle)
    (hw : solo.world.shutdown.requested = false ∧ solo.world.faults.claim = 0)
    (hrows : (solo.rows.filter fun row => row.status ≠ .sent).take 2 = batch) :
    Reachable none World.Accepting (solo.holding batch) := by
  obtain ⟨hsound, horderly⟩ := h.orderly
  have hclaim := Store.claim_untried horderly.sorted horderly.untried 2 solo.world.clock
  have hadvance := advance_of_claim hsound.memory hs hw (hclaim.trans hrows)
  rw [← hadvance]
  refine h.steady (.advance 2) ?_
  rw [hadvance]
  exact ⟨rfl, hsound.required.available, hsound.required.unrejected⟩

theorem reachable_resumed : Reachable none World.Accepting resumed := by
  have hopening : Reachable none World.Accepting opening := .start _ rfl rfl ⟨rfl, rfl⟩
  have hcommitted : Reachable none World.Accepting committed :=
    hopening.steady (.commit "both" (by decide +kernel) (by decide +kernel) (by decide +kernel))
      (by decide +kernel)
  have hclaimed : Reachable none World.Accepting (committed.holding committed.rows) :=
    hcommitted.claims rfl (by decide +kernel) (by decide +kernel)
  have hunlucky : Reachable none World.Accepting unlucky :=
    (hclaimed.steadily (by decide +kernel)).steady (.change _ ⟨rfl, rfl⟩) (by decide +kernel)
  have hcommitted' := (hunlucky.steadily (by decide +kernel)).steady
    (.commit "third" (by decide +kernel) (by decide +kernel) (by decide +kernel))
    (by decide +kernel)
  have hstopped : Reachable none World.Accepting stopped :=
    hcommitted'.steady (.change _ ⟨rfl, rfl⟩) (by decide +kernel)
  have hrestarted : Reachable none World.Accepting restarted :=
    ((hstopped.steadily (by decide +kernel)).steadily (by decide +kernel)).steady
      (.change _ ⟨rfl, rfl⟩) (by decide +kernel)
  have hagain : Reachable none World.Accepting (restarted.holding (restarted.rows.take 2)) :=
    hrestarted.claims rfl (by decide +kernel) (by decide +kernel)
  exact ((hagain.steadily (by decide +kernel)).steadily (by decide +kernel)).steadily
    (by decide +kernel)

/-- The first row is accepted twice before the second one is, and the third one is yet to come. -/
theorem resumed_first_in_first_out :
    (accepted resumed.journal).map (·.id) =
        [Uuid.reserved 1, Uuid.reserved 1, Uuid.reserved 2] ∧
      resumed.rows.map (·.id) = [Uuid.reserved 1, Uuid.reserved 2, Uuid.reserved 3] ∧
      ∃ count, ((accepted resumed.journal).map (·.id)).eraseDups =
        (resumed.rows.take count).map (·.id) :=
  ⟨by decide +kernel, by decide +kernel, reachable_resumed.first_in_first_out.2⟩

end Interrupted

end Solo
end Publisher
end HrPipeline
