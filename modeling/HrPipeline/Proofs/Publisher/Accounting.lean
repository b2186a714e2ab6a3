import HrPipeline.Proofs.Publisher.Crew
import Mathlib.Data.List.TakeWhile

/-!
# The accounts of a crew

Whatever the order of the calls of some publishers, the messages accepted for a row are the records
of acceptance that were tried for it, and those that are still owed. The history of a row is told by
the calls about it: it is sent once an acceptance was recorded, and counts the failures recorded
until then. `Accounted` is the invariant of all steps.
-/

namespace HrPipeline.Publisher

open HrPipeline.Broker HrPipeline.Calendar HrPipeline.Outbox HrPipeline.Scenario

/-- How often the message of a row was accepted. -/
def acceptedSends (id : Uuid) (calls : List Call) : Nat := calls.countP (Call.acceptsFor id)

/-- How often an acceptance was to be recorded for a row. -/
def markSentCalls (id : Uuid) (calls : List Call) : Nat := calls.countP (Call.marksSent id)

/-- How many failures were recorded for a row before its first recorded acceptance. -/
def recordedFailures (id : Uuid) (calls : List Call) : Nat :=
  (calls.takeWhile (· ≠ .markSent id true)).count (.markFailed id true)

/-- A recorded acceptance ends the counting of failures. -/
theorem recordedFailures_append (id : Uuid) (calls : List Call) (call : Call) :
    recordedFailures id (calls ++ [call]) = recordedFailures id calls +
      if .markSent id true ∉ calls ∧ call = .markFailed id true then 1 else 0 := by
  unfold recordedFailures
  by_cases hm : .markSent id true ∈ calls
  · have hlt : (calls.takeWhile (· ≠ .markSent id true)).length ≠ calls.length := by
      intro he
      have hall := List.takeWhile_eq_self_iff.mp ((List.takeWhile_prefix _).eq_of_length he)
      simpa using hall _ hm
    rw [List.takeWhile_append, if_neg hlt]
    simp [hm]
  · have hall : calls.takeWhile (· ≠ .markSent id true) = calls := by
      rw [List.takeWhile_eq_self_iff]
      intro other ho
      exact decide_eq_true fun he => hm (he ▸ ho)
    rw [List.takeWhile_append, if_pos (by rw [hall]), hall, List.count_append]
    congr 1
    by_cases hc : call = .markFailed id true
    · simp [hc, hm]
    · by_cases hs : call = .markSent id true
      · simp [hs]
      · simp [hc, hs]

/-- What the history of a row says of the calls. -/
structure TellsOf (calls : List Call) (row : Row) : Prop where
  status : row.status = .sent ↔ .markSent row.id true ∈ calls
  retryCount : row.retryCount = min (recordedFailures row.id calls : Int) maxRetryCount

/-- A call that is about another row leaves the history of a row true. -/
private theorem TellsOf.unrelated {calls : List Call} {row : Row} (h : TellsOf calls row)
    {call : Call} (hs : call ≠ .markSent row.id true) (hf : call ≠ .markFailed row.id true) :
    TellsOf (calls ++ [call]) row where
  status := by
    rw [h.status, List.mem_append, List.mem_singleton]
    constructor
    · exact .inl
    · rintro (hm | he)
      · exact hm
      · exact absurd he.symm hs
  retryCount := by
    rw [h.retryCount, recordedFailures_append, if_neg (fun hc => hf hc.2), Nat.add_zero]

/-- The history of a row follows the calls. -/
theorem TellsOf.change {calls : List Call} {row : Row} (h : TellsOf calls row) (now : Instant)
    (reason : String) (call : Call) : TellsOf (calls ++ [call]) (call.change now reason row) := by
  cases call with
  | send other accepted => exact h.unrelated (by simp) (by simp)
  | markSent id recorded =>
    show TellsOf _ (if recorded = true ∧ row.id = id then row.markSent now else row)
    by_cases hc : recorded = true ∧ row.id = id
    · rw [if_pos hc]
      obtain ⟨rfl, rfl⟩ := hc
      constructor
      · rw [Row.markSent_id]
        exact iff_of_true (Row.markSent_status now row) (by simp)
      · rw [Row.markSent_id, Row.retryCount_markSent, h.retryCount, recordedFailures_append,
          if_neg (by simp), Nat.add_zero]
    · rw [if_neg hc]
      refine h.unrelated ?_ (by simp)
      intro he
      cases he
      exact hc ⟨rfl, rfl⟩
  | markFailed id recorded =>
    show TellsOf _ (if recorded = true ∧ row.id = id then row.markFailed now reason else row)
    by_cases hc : recorded = true ∧ row.id = id
    · rw [if_pos hc]
      obtain ⟨rfl, rfl⟩ := hc
      constructor
      · rw [Row.markFailed_id, Row.markFailed_status_iff, h.status]
        simp
      · rw [Row.markFailed_id, Row.retryCount_markFailed, recordedFailures_append]
        by_cases hs : row.status = .sent
        · rw [if_pos hs, if_neg (fun hn => hn.1 (h.status.mp hs)), Nat.add_zero, h.retryCount]
        · rw [if_neg hs, if_pos ⟨fun hn => hs (h.status.mpr hn), rfl⟩, h.retryCount,
            nextRetryCount_min]
    · rw [if_neg hc]
      refine h.unrelated (by simp) ?_
      intro he
      cases he
      exact hc ⟨rfl, rfl⟩

namespace Crew

/-- What holds of a crew at all times. -/
structure Accounted (crew : Crew) : Prop where
  memory : ∃ store, crew.world.storage = .memory store
  unique : (crew.rows.map (·.id)).Nodup
  /-- Every row that a publisher holds was committed. -/
  held : ∀ sender ∈ crew.senders, ∀ row ∈ sender.stage.rows,
    ∃ committed ∈ crew.rows, committed.origin = row.origin
  /-- Every call is about a committed row. -/
  called : ∀ call ∈ crew.calls, ∃ row : Row, call.Concerns row ∧
    ∃ committed ∈ crew.rows, committed.origin = row.origin
  sent : crew.world.broker.sent = (crew.calls.filterMap Call.accepted?).map Outbound.ofRow
  balance : ∀ id, acceptedSends id crew.calls = markSentCalls id crew.calls + crew.owing id
  history : ∀ row ∈ crew.rows, TellsOf crew.calls row

/-- A row has the origin of a committed row. -/
private theorem committed_changeRows {rows : List Row} {origin : Draft} (now : Instant)
    (reason : String) (call? : Option Call)
    (h : ∃ committed ∈ rows, committed.origin = origin) :
    ∃ committed ∈ changeRows now reason call? rows, committed.origin = origin := by
  obtain ⟨committed, hm, ho⟩ := h
  cases call? with
  | none => exact ⟨committed, hm, ho⟩
  | some call =>
    exact ⟨_, List.mem_map_of_mem hm, (Call.origin_change now reason call committed).trans ho⟩

private theorem ids_changeRows (now : Instant) (reason : String) (call? : Option Call)
    (rows : List Row) : (changeRows now reason call? rows).map (·.id) = rows.map (·.id) := by
  cases call? with
  | none => rfl
  | some call => exact Call.ids_change now reason call rows

private theorem history_changeRows {rows : List Row} {calls : List Call}
    (h : ∀ row ∈ rows, TellsOf calls row) (now : Instant) (reason : String)
    (call? : Option Call) :
    ∀ row ∈ changeRows now reason call? rows, TellsOf (calls ++ call?.toList) row := by
  cases call? with
  | none =>
    rw [Option.toList_none, List.append_nil]
    exact h
  | some call =>
    intro row hr
    obtain ⟨before, hb, rfl⟩ := List.mem_map.mp hr
    exact (h before hb).change now reason call

/-- A step of one publisher keeps the accounts. -/
private theorem Accounted.advanced {crew : Crew} (h : crew.Accounted) {store : Store}
    (hm : crew.world.storage = .memory store) {index : Nat} {sender : Sender}
    (hi : crew.senders[index]? = some sender) {call? : Option Call} {stage : Stage}
    {world : World} (hd : Advanced crew.world store sender.stage call? stage world) :
    Accounted ⟨world, crew.senders.set index { sender with stage },
      crew.calls ++ call?.toList⟩ := by
  have hrows : crew.rows = store.rows := by
    rw [rows, hm]
    rfl
  have hlt : index < crew.senders.length := (List.getElem?_eq_some_iff.mp hi).1
  have hget : crew.senders[index] = sender := (List.getElem?_eq_some_iff.mp hi).2
  obtain ⟨now, reason, hstorage⟩ := hd.storage
  have hrows' : world.storage.rows = changeRows now reason call? crew.rows := by
    rw [hstorage, hrows]
    rfl
  have hheld : ∀ row ∈ sender.stage.rows, ∃ committed ∈ crew.rows,
      committed.origin = row.origin := h.held sender (List.mem_of_getElem? hi)
  constructor
  case memory => exact ⟨_, hstorage⟩
  case unique =>
    show (world.storage.rows.map (·.id)).Nodup
    rw [hrows', ids_changeRows]
    exact h.unique
  case held =>
    intro other ho row hr
    show ∃ committed ∈ world.storage.rows, committed.origin = row.origin
    rw [hrows']
    apply committed_changeRows
    rcases List.mem_or_eq_of_mem_set ho with ho | rfl
    · exact h.held other ho row hr
    · rcases hd.rows row hr with hr | hr
      · exact hheld row hr
      · exact ⟨row, hrows ▸ hr, rfl⟩
  case called =>
    intro call hcall
    show ∃ row : Row, call.Concerns row ∧
      ∃ committed ∈ world.storage.rows, committed.origin = row.origin
    rw [hrows']
    rcases List.mem_append.mp hcall with hcall | hcall
    · obtain ⟨row, hc, hcommitted⟩ := h.called call hcall
      exact ⟨row, hc, committed_changeRows now reason call? hcommitted⟩
    · obtain ⟨row, hr, hc⟩ := hd.concerns call (Option.mem_toList.mp hcall)
      exact ⟨row, hc, committed_changeRows now reason call? (hheld row hr)⟩
  case sent =>
    show world.broker.sent = _
    rw [hd.sent, h.sent, List.filterMap_append, List.map_append]
    cases call? with
    | none => rfl
    | some call => cases hc : call.accepted? <;> simp [hc]
  case balance =>
    intro id
    have hb := h.balance id
    have howed := hd.owed id
    have howes := hd.owes id
    -- The publisher that made the call is counted by what it owed and by what it owes now.
    have hcount := List.countP_set (p := fun s : Sender => s.stage.owes id)
      (a := { sender with stage }) hlt
    have hpos : (if sender.stage.owes id = true then 1 else 0) ≤ crew.owing id := by
      split
      · next hs => exact List.countP_pos_iff.mpr ⟨sender, List.mem_of_getElem? hi, hs⟩
      · exact Nat.zero_le _
    unfold Crew.owing at hb hpos ⊢
    simp only [acceptedSends, markSentCalls, List.countP_append] at hb ⊢
    rw [hcount, hget]
    cases call? with
    | none =>
      simp only [Option.any_none] at howed howes
      simp only [howed, howes, Option.toList_none, List.countP_nil]
      simpa using hb
    | some call =>
      simp only [Option.any_some] at howed howes
      simp only [howed, howes, Option.toList_some, List.countP_singleton] at hpos ⊢
      omega
  case history =>
    show ∀ row ∈ world.storage.rows, _
    rw [hrows']
    exact history_changeRows h.history now reason call?

/-- A call of one publisher keeps the accounts. -/
theorem Accounted.advance {crew : Crew} (h : crew.Accounted) (index : Nat) :
    (crew.advance index).Accounted := by
  unfold Crew.advance
  cases hi : crew.senders[index]? with
  | none => exact h
  | some sender =>
    obtain ⟨store, hm⟩ := h.memory
    have hu : (store.rows.map (·.id)).Nodup := by
      have := h.unique
      rw [rows, hm] at this
      exact this
    exact h.advanced hm hi (Publisher.advanced hm hu rfl)

/-- A row made from a new draft has no calls about it. -/
private theorem tellsOf_ofDraft {crew : Crew} (h : crew.Accounted) {draft : Draft}
    (hp : draft.status = .pending) (hf : ∀ row ∈ crew.rows, row.id ≠ draft.id) (now : Instant) :
    TellsOf crew.calls (Row.ofDraft draft now) := by
  have hnone : ∀ call ∈ crew.calls, call ≠ .markSent draft.id true ∧
      call ≠ .markFailed draft.id true := by
    intro call hcall
    obtain ⟨row, hc, committed, hm, ho⟩ := h.called call hcall
    have hid := hf committed hm
    rw [Row.id_eq_of_origin_eq ho] at hid
    constructor <;>
    · rintro rfl
      exact hid hc.symm
  constructor
  · show draft.status = .sent ↔ _
    rw [hp]
    exact iff_of_false (by simp) (fun hm => (hnone _ hm).1 rfl)
  · have hz : recordedFailures draft.id crew.calls = 0 := by
      rw [recordedFailures, List.count_eq_zero]
      intro hm
      exact (hnone _ ((List.takeWhile_prefix _).subset hm)).2 rfl
    show (0 : Int) = min (recordedFailures draft.id crew.calls : Int) maxRetryCount
    rw [hz]
    rfl

/-- The commit of new events keeps the accounts. -/
private theorem Accounted.commit {crew : Crew} (h : crew.Accounted) (name : String)
    (hp : ∀ draft ∈ crew.staged name, draft.status = .pending)
    (hu : ((crew.staged name).map (·.id)).Nodup)
    (hf : ∀ draft ∈ crew.staged name, ∀ row ∈ crew.rows, row.id ≠ draft.id) :
    Accounted { crew with world := crew.world.commitTransaction name } := by
  obtain ⟨store, hm⟩ := h.memory
  obtain ⟨hstorage, hbroker, -⟩ := World.commitTransaction_memory hm name
  have hrows' : (crew.world.commitTransaction name).storage.rows =
      crew.rows ++ (crew.staged name).map (Row.ofDraft · crew.world.clock) := by
    rw [hstorage, rows, hm]
    rfl
  have hkept : ∀ {origin : Draft}, (∃ committed ∈ crew.rows, committed.origin = origin) →
      ∃ committed ∈ (crew.world.commitTransaction name).storage.rows,
        committed.origin = origin := by
    rintro origin ⟨committed, hc, ho⟩
    exact ⟨committed, hrows' ▸ List.mem_append_left _ hc, ho⟩
  constructor
  case memory => exact ⟨_, hstorage⟩
  case unique =>
    show ((crew.world.commitTransaction name).storage.rows.map (·.id)).Nodup
    rw [hrows', List.map_append, List.map_map]
    refine List.nodup_append'.mpr ⟨h.unique, hu, ?_⟩
    intro id hold hnew
    obtain ⟨row, hr, rfl⟩ := List.mem_map.mp hold
    obtain ⟨draft, hd, he⟩ := List.mem_map.mp hnew
    exact hf draft hd row hr he.symm
  case held =>
    intro sender hs row hr
    exact hkept (h.held sender hs row hr)
  case called =>
    intro call hcall
    obtain ⟨row, hc, hcommitted⟩ := h.called call hcall
    exact ⟨row, hc, hkept hcommitted⟩
  case sent =>
    show (crew.world.commitTransaction name).broker.sent = _
    rw [hbroker]
    exact h.sent
  case balance => exact h.balance
  case history =>
    show ∀ row ∈ (crew.world.commitTransaction name).storage.rows, TellsOf crew.calls row
    rw [hrows']
    intro row hr
    rcases List.mem_append.mp hr with hr | hr
    · exact h.history row hr
    · obtain ⟨draft, hd, rfl⟩ := List.mem_map.mp hr
      exact tellsOf_ofDraft h (hp draft hd) (hf draft hd) crew.world.clock

/-- A change of anything but the rows and the accepted messages keeps the accounts. -/
private theorem Accounted.change {crew : Crew} (h : crew.Accounted) {world : World}
    (hw : crew.world.SameRecord world) : Accounted { crew with world } := by
  have hrows : rows { crew with world } = crew.rows := by
    unfold rows
    rw [hw.storage]
  constructor
  case memory => exact hw.storage ▸ h.memory
  case unique => exact hrows ▸ h.unique
  case held => exact hrows ▸ h.held
  case called => exact hrows ▸ h.called
  case sent => exact hw.sent.trans h.sent
  case balance => exact h.balance
  case history => exact hrows ▸ h.history

/-- Every step keeps the accounts. -/
theorem Accounted.step {crew crew' : Crew} (h : crew.Accounted) (hs : Step crew crew') :
    crew'.Accounted := by
  cases hs with
  | advance index => exact h.advance index
  | commit name hp hu hf => exact h.commit name hp hu hf
  | change world hw => exact h.change hw

/-- The accounts hold at the start. -/
private theorem accounted_start {world : World} {senders : List Sender} {ceiling : Option Int}
    (hw : world.storage = .memory (.empty ceiling)) (hb : world.broker.sent = [])
    (hs : ∀ sender ∈ senders, sender.stage = .idle) : Accounted ⟨world, senders, []⟩ := by
  have hrows : rows ⟨world, senders, []⟩ = [] := by
    rw [rows, hw]
    rfl
  constructor
  case memory => exact ⟨_, hw⟩
  case unique => simp [hrows]
  case held =>
    intro sender hm row hr
    rw [hs sender hm] at hr
    cases hr
  case called => simp
  case sent => simp [hb]
  case balance =>
    intro id
    have hz : owing id ⟨world, senders, []⟩ = 0 := by
      rw [owing, List.countP_eq_zero]
      intro sender hm
      simp [hs sender hm, Stage.owes]
    rw [hz]
    rfl
  case history => simp [hrows]

/-- The accounts hold at all times. -/
theorem Reachable.accounted {crew : Crew} (h : Reachable crew) : crew.Accounted := by
  induction h with
  | start world senders ceiling hw hb hs => exact accounted_start hw hb hs
  | step _ hs ih => exact ih.step hs

/-- Publication happens at least once, and every message is accounted for. Each accepted message was
made from a committed row. For each row, the messages accepted are the calls that were to record
an acceptance and those that publishers still owe; the row is sent exactly if one of these calls
went through, and then its message was accepted. Its count of failures is that of the failures
recorded before, as far as attempts are counted. -/
theorem Reachable.at_least_once {crew : Crew} (h : Reachable crew) :
    crew.world.broker.sent = (crew.calls.filterMap Call.accepted?).map Outbound.ofRow ∧
    (∀ row, .send row true ∈ crew.calls →
      ∃ committed ∈ crew.rows, committed.id = row.id ∧
        Outbound.ofRow committed = Outbound.ofRow row) ∧
    ∀ row ∈ crew.rows,
      acceptedSends row.id crew.calls =
        markSentCalls row.id crew.calls + crew.owing row.id ∧
      (row.status = .sent ↔ .markSent row.id true ∈ crew.calls) ∧
      (row.status = .sent →
        0 < acceptedSends row.id crew.calls ∧ Outbound.ofRow row ∈ crew.world.broker.sent) ∧
      row.retryCount = min (recordedFailures row.id crew.calls : Int) maxRetryCount := by
  have ha := h.accounted
  have hcommitted : ∀ row, .send row true ∈ crew.calls →
      ∃ committed ∈ crew.rows, committed.origin = row.origin := by
    intro row hr
    obtain ⟨other, hc, hcommitted⟩ := ha.called _ hr
    exact hc ▸ hcommitted
  refine ⟨ha.sent, ?_, ?_⟩
  · intro row hr
    obtain ⟨committed, hm, ho⟩ := hcommitted row hr
    exact ⟨committed, hm, Row.id_eq_of_origin_eq ho, Row.ofRow_eq_of_origin_eq ho⟩
  · intro row hr
    have hb := ha.balance row.id
    have hh := ha.history row hr
    refine ⟨hb, hh.status, ?_, hh.retryCount⟩
    intro hs
    have hmarked : 0 < markSentCalls row.id crew.calls :=
      List.countP_pos_iff.mpr ⟨_, hh.status.mp hs, by simp [Call.marksSent]⟩
    have hpos : 0 < acceptedSends row.id crew.calls := by omega
    refine ⟨hpos, ?_⟩
    obtain ⟨call, hm, hc⟩ := List.countP_pos_iff.mp hpos
    cases call with
    | markSent id recorded => cases hc
    | markFailed id recorded => cases hc
    | send other accepted =>
      simp only [Call.acceptsFor, Bool.and_eq_true, decide_eq_true_eq] at hc
      obtain ⟨rfl, hid⟩ := hc
      obtain ⟨committed, hcm, ho⟩ := hcommitted other hm
      have hsame : committed = row :=
        List.inj_on_of_nodup_map ha.unique hcm hr ((Row.id_eq_of_origin_eq ho).trans hid)
      rw [ha.sent, ← hsame, Row.ofRow_eq_of_origin_eq ho]
      exact List.mem_map_of_mem (List.mem_filterMap.mpr ⟨_, hm, rfl⟩)

section Overtaken

/-- Two publishers that are about to start on an empty store, and a transaction with one event. -/
def pair : Crew where
  world :=
    { World.start ⟨1784105400, 0⟩ ⟨1784105400, 0⟩ (.memory (.empty none)) none with
      transactions := [("hire", ⟨[Draft.ofEvent (Uuid.reserved 1)
        (EmployeeCreated.new (Uuid.reserved 2) (Uuid.reserved 3) none ⟨1784105400, 0⟩)]⟩)] }
  senders := [⟨none, 10, .idle⟩, ⟨none, 10, .idle⟩]
  calls := []

/-- The pair after the commit. -/
def briefed : Crew := { pair with world := pair.world.commitTransaction "hire" }

/-- Both publishers have claimed the row, the first has sent it, and the broker has gone down. -/
def stranded : Crew :=
  let crew := ((briefed.advance 0).advance 1).advance 0
  { crew with world := { crew.world with broker := { crew.world.broker with available := false } } }

/-- The second publisher fails to send the row, and records that after the first has recorded the
acceptance. -/
def overtaken : Crew := ((stranded.advance 1).advance 0).advance 1

theorem reachable_overtaken : Reachable overtaken := by
  have hstart : Reachable pair := .start pair.world pair.senders none rfl rfl (by simp [pair])
  have hbriefed : Reachable briefed :=
    .step hstart (.commit "hire" (by decide +kernel) (by decide +kernel) (by decide +kernel))
  have hahead : Reachable (((briefed.advance 0).advance 1).advance 0) :=
    ((hbriefed.step (.advance 0)).step (.advance 1)).step (.advance 0)
  have hstranded : Reachable stranded := hahead.step (.change _ ⟨rfl, rfl⟩)
  exact ((hstranded.step (.advance 1)).step (.advance 0)).step (.advance 1)

/-- The late record of a failure is a call that goes through, and does not count. -/
theorem overtaken_at_least_once :
    overtaken.calls.countP (fun call => call = .markFailed (Uuid.reserved 1) true) = 1 ∧
    overtaken.rows.map (fun row => (row.status, row.retryCount)) = [(.sent, 0)] ∧
    overtaken.world.broker.sent =
      (overtaken.calls.filterMap Call.accepted?).map Outbound.ofRow ∧
    ∀ row ∈ overtaken.rows,
      acceptedSends row.id overtaken.calls =
        markSentCalls row.id overtaken.calls + overtaken.owing row.id := by
  have h := reachable_overtaken.at_least_once
  refine ⟨by decide +kernel, by decide +kernel, h.1, ?_⟩
  intro row hr
  exact (h.2.2 row hr).1

end Overtaken

end Crew
end HrPipeline.Publisher
