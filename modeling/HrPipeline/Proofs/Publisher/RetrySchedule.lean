import HrPipeline.Proofs.Publisher.Solo

/-!
# Retries on schedule, up to a ceiling

A publisher with a ceiling on attempts tries a row again only when the time after its last failure
has passed, and never again once as many failures as the ceiling are recorded. Then it reports the
row as parked, once. It decides this from the row that it claimed, and the store counts for itself:
`Scheduled` says that both counts are the number of failures that the journal tells of.
-/

namespace HrPipeline

open HrPipeline.Broker HrPipeline.Calendar HrPipeline.Outbox

namespace Outbox

/-- The time to wait after a number of failures. -/
theorem backoffSeconds_natCast (failures : Nat) :
    backoffSeconds failures = 15 * min (failures : Int) 10 := by
  unfold backoffSeconds
  omega

/-- As long as it is below a ceiling that can be counted up to, a number of failures is counted. -/
theorem nextRetryCount_of_lt {count : Int} {limit : Nat} (h : count < limit)
    (hmax : (limit : Int) ≤ maxRetryCount) : nextRetryCount count = count + 1 := by
  unfold nextRetryCount
  omega

end Outbox

namespace Publisher

open HrPipeline.Scenario

namespace Deed

/-- Whether a step recorded a failure of a row. -/
def fails (id : Uuid) (deed : Deed) : Bool := deed.call? = some (.markFailed id true)

/-- The step that records a failure of a row. -/
def failure (limit : Nat) (now : Instant) (row : Row) : Deed :=
  ⟨now, [], some (.markFailed row.id true), [failureNotice (some limit) row true]⟩

theorem fails_failure (limit : Nat) (now : Instant) (row : Row) (id : Uuid) :
    (failure limit now row).fails id = decide (id = row.id) := by
  simp [fails, failure, eq_comm]

end Deed

namespace Solo

/-- Something holds of every step of a journal and the steps before it. -/
def Throughout (holds : List Deed → Deed → Prop) (journal : List Deed) : Prop :=
  ∀ before deed later, journal = before ++ deed :: later → holds before deed

/-- The steps that recorded a failure of a row, in order. -/
def failuresOf (id : Uuid) (journal : List Deed) : List Deed := journal.filter (·.fails id)

/-- When a row is due again after the failure at a place among its failures: fifteen seconds later
for each failure so far, up to ten. -/
def dueAfter (place : Nat) (failure : Deed) : Instant :=
  failure.now.addSeconds (15 * min ((place + 1 : Nat) : Int) 10)

section Journals

variable {holds : List Deed → Deed → Prop} {journal : List Deed} {deed : Deed}

theorem throughout_nil : Throughout holds [] := by
  intro before deed later h
  simp at h

theorem Throughout.concat (h : Throughout holds journal) (hd : holds journal deed) :
    Throughout holds (journal ++ [deed]) := by
  intro before other later hsplit
  rcases split_concat hsplit with ⟨rfl, rfl⟩ | ⟨between, hbetween⟩
  · exact hd
  · exact h before other between hbetween

theorem failuresOf_concat (id : Uuid) (journal : List Deed) (deed : Deed) :
    failuresOf id (journal ++ [deed]) =
      if deed.fails id then failuresOf id journal ++ [deed] else failuresOf id journal := by
  rw [failuresOf, List.filter_append]
  split
  · next h => simp [failuresOf, h]
  · next h => simp [failuresOf, h]

theorem failuresOf_failure (id : Uuid) (limit : Nat) (now : Instant) (row : Row) :
    failuresOf id (journal ++ [.failure limit now row]) =
      if id = row.id then failuresOf id journal ++ [.failure limit now row]
      else failuresOf id journal := by
  rw [failuresOf_concat, Deed.fails_failure]
  simp only [decide_eq_true_eq]

end Journals

variable {limit : Nat} {rows rows' : List Row} {stage stage' : Stage} {journal : List Deed}
  {now : Instant}

/-- All times to wait after the failures of a row have passed. -/
def Due (id : Uuid) (journal : List Deed) (now : Instant) : Prop :=
  ∀ place failure, (failuresOf id journal)[place]? = some failure → dueAfter place failure ≤ now

/-- A row may be tried: it is stored, due and not parked. -/
structure Ready (limit : Nat) (rows : List Row) (journal : List Deed) (now : Instant)
    (row : Row) : Prop where
  stored : row ∈ rows
  unsent : row.status ≠ .sent
  below : row.retryCount < limit
  due : Due row.id journal now

/-- The parking of a row is reported by the step that records as many failures as the limit. -/
def Parks (limit : Nat) (before : List Deed) (deed : Deed) : Prop :=
  ∀ id, deed.notices.count (.parked id) =
    if deed.fails id ∧ (failuresOf id before).length + 1 = limit then 1 else 0

/-- A step claims rows that are due and have fewer failures than the limit. -/
def ClaimsOnTime (limit : Nat) (before : List Deed) (deed : Deed) : Prop :=
  ∀ row ∈ deed.claimed, Due row.id before deed.now ∧ (failuresOf row.id before).length < limit

/-- What holds at all times. -/
structure Scheduled (limit : Nat) (rows : List Row) (stage : Stage) (journal : List Deed)
    (now : Instant) : Prop where
  /-- The publisher holds rows as they are stored. -/
  held : ∀ row ∈ stage.rows, Ready limit rows journal now row
  apart : (stage.rows.map (·.id)).Nodup
  counted : ∀ row ∈ rows, row.retryCount = (failuresOf row.id journal).length
  limited : ∀ id, (failuresOf id journal).length ≤ limit
  known : ∀ id, failuresOf id journal ≠ [] → id ∈ rows.map (·.id)
  /-- A failure after which the time has not passed yet is the one that the row waits for. -/
  waiting : ∀ row ∈ rows, ∀ place failure, (failuresOf row.id journal)[place]? = some failure →
    dueAfter place failure ≤ now ∨ row.nextRetryAt = some (dueAfter place failure)
  claims : Throughout (ClaimsOnTime limit) journal
  parks : Throughout (Parks limit) journal
  /-- A row is reported as parked once it is, and once only. -/
  told : ∀ id, (journal.flatMap (·.notices)).count (.parked id) =
    if (failuresOf id journal).length = limit then 1 else 0

theorem Ready.later {row : Row} {later : Instant} (h : Ready limit rows journal now row)
    (hle : now ≤ later) : Ready limit rows journal later row :=
  { h with due := fun place failure hf => Instant.le_trans (h.due place failure hf) hle }

/-- The rows that a store selects are ready. -/
private theorem Scheduled.ready_of_claim (h : Scheduled limit rows stage journal now)
    {batchSize : Int} {row : Row}
    (hc : row ∈ (Store.mk rows (some limit)).claim batchSize now) :
    Ready limit rows journal now row := by
  obtain ⟨hstored, heligible⟩ := Store.mem_claim hc
  simp only [Row.isEligible, Row.isClaimable, Bool.and_eq_true, decide_eq_true_eq, ne_eq,
    Option.getD_some] at heligible
  obtain ⟨⟨hunsent, hclaimable⟩, hbelow⟩ := heligible
  refine ⟨hstored, hunsent, hbelow, fun place failure hf => ?_⟩
  rcases h.waiting row hstored place failure hf with hdue | hdue
  · exact hdue
  · simpa [hdue] using hclaimable

/-- The other rows of a batch are other rows of the store. -/
private theorem Scheduled.ne_of_mem_rest {row other : Row} {outcome : Except BrokerError Unit}
    {rest : List Row} {report : Report}
    (h : Scheduled limit rows (.recording row outcome rest report) journal now)
    (hm : other ∈ rest) : other.id ≠ row.id := by
  intro hid
  have hheld : row.id ∈ rest.map (·.id) := hid ▸ List.mem_map_of_mem hm
  exact (List.nodup_cons.mp h.apart).1 hheld

/-- The reports of parked rows with those of a step more. -/
private theorem Scheduled.told_concat (h : Scheduled limit rows stage journal now) {deed : Deed}
    (hp : Parks limit journal deed)
    (hlt : ∀ id, deed.fails id = true → (failuresOf id journal).length < limit) (id : Uuid) :
    ((journal ++ [deed]).flatMap (·.notices)).count (.parked id) =
      if (failuresOf id (journal ++ [deed])).length = limit then 1 else 0 := by
  rw [List.flatMap_append, List.count_append, h.told id, List.flatMap_singleton, hp id,
    failuresOf_concat]
  by_cases hf : deed.fails id = true
  · have hbelow := hlt id hf
    simp only [hf, true_and, if_true, List.length_append, List.length_singleton]
    rw [if_neg (by omega), Nat.zero_add]
  · simp [hf]

/-- A step that records no failure and leaves the rows, or marks some of those held as sent. -/
private theorem Scheduled.mark (h : Scheduled limit rows stage journal now) {deed : Deed}
    (hd : ∀ id, deed.fails id = false) (hn : ∀ id, .parked id ∉ deed.notices)
    (hc : ClaimsOnTime limit journal deed) (change : Row → Row)
    (hchange : ∀ row ∈ rows, change row = row ∨
      row ∈ stage.rows ∧ ∃ now, change row = row.markSent now)
    (hheld : ∀ row ∈ stage'.rows, Ready limit (rows.map change) journal now row)
    (hapart : (stage'.rows.map (·.id)).Nodup) :
    Scheduled limit (rows.map change) stage' (journal ++ [deed]) now := by
  have hquiet : ∀ id, failuresOf id (journal ++ [deed]) = failuresOf id journal := by
    intro id
    simp [failuresOf_concat, hd id]
  have hparks : Parks limit journal deed := by
    intro id
    simp [hd id, List.count_eq_zero, hn id]
  have hids : ∀ row ∈ rows, (change row).id = row.id := by
    intro row hm
    rcases hchange row hm with he | ⟨-, at_, he⟩ <;> rw [he]
    exact Row.markSent_id at_ row
  constructor
  case held =>
    intro row hm
    have hready := hheld row hm
    refine { hready with due := ?_ }
    rw [Due, hquiet]
    exact hready.due
  case apart => exact hapart
  case counted =>
    refine List.forall_mem_map.mpr fun row hm => ?_
    rw [hids row hm, hquiet, ← h.counted row hm]
    rcases hchange row hm with he | ⟨-, at_, he⟩ <;> rw [he]
    exact Row.retryCount_markSent row at_
  case limited =>
    intro id
    rw [hquiet]
    exact h.limited id
  case known =>
    intro id hid
    rw [hquiet] at hid
    rw [List.map_map, List.map_congr_left (g := (·.id)) hids]
    exact h.known id hid
  case waiting =>
    refine List.forall_mem_map.mpr fun row hm place failure hf => ?_
    rw [hids row hm, hquiet] at hf
    rcases hchange row hm with he | ⟨hheld, -⟩
    · rw [he]
      exact h.waiting row hm place failure hf
    · exact .inl ((h.held row hheld).due place failure hf)
  case claims => exact h.claims.concat hc
  case parks => exact h.parks.concat hparks
  case told => exact h.told_concat hparks (by simp [hd])

/-- A step that records no failure and leaves the rows alone. -/
private theorem Scheduled.quiet (h : Scheduled limit rows stage journal now) {deed : Deed}
    (hd : ∀ id, deed.fails id = false) (hn : ∀ id, .parked id ∉ deed.notices)
    (hc : ClaimsOnTime limit journal deed)
    (hheld : ∀ row ∈ stage'.rows, Ready limit rows journal now row)
    (hapart : (stage'.rows.map (·.id)).Nodup) :
    Scheduled limit rows stage' (journal ++ [deed]) now := by
  have hmark := h.mark hd hn hc id (fun row _ => .inl rfl) (by rwa [List.map_id]) hapart
  rwa [List.map_id] at hmark

/-- The store and the publisher agree on when a failure is the last one. -/
private theorem parks_failure {row : Row} (hmax : (limit : Int) ≤ maxRetryCount)
    (hcount : row.retryCount = (failuresOf row.id journal).length)
    (hbelow : row.retryCount < limit) : Parks limit journal (.failure limit now row) := by
  intro id
  have hnotice : failureNotice (some limit) row true =
      if (failuresOf row.id journal).length + 1 = limit then .parked row.id
      else .publishFailed row.id := by
    have hlast : reachesCeiling (some (limit : Int)) (nextRetryCount row.retryCount) = true ↔
        (failuresOf row.id journal).length + 1 = limit := by
      rw [nextRetryCount_of_lt hbelow hmax, reachesCeiling, decide_eq_true_eq]
      omega
    rw [failureNotice, if_pos rfl]
    exact if_congr hlast rfl rfl
  rw [Deed.fails_failure, Deed.failure, hnotice, List.count_singleton]
  by_cases hid : id = row.id
  · subst hid
    split <;> simp_all
  · split <;> simp [hid, Ne.symm hid]

/-- After a failure, the row waits for the time after it, and for no other time. -/
private theorem Ready.waits {row : Row} (hmax : (limit : Int) ≤ maxRetryCount)
    (h : Ready limit rows journal now row)
    (hcount : row.retryCount = (failuresOf row.id journal).length) (reason : String) {place : Nat}
    {failure : Deed}
    (hf : (failuresOf row.id (journal ++ [.failure limit now row]))[place]? = some failure) :
    dueAfter place failure ≤ now ∨
      (row.markFailed now reason).nextRetryAt = some (dueAfter place failure) := by
  rw [failuresOf_failure, if_pos rfl, List.getElem?_append] at hf
  split at hf
  · exact .inl (h.due place failure hf)
  · next hplace =>
    -- The failure is the one that is just being recorded.
    rw [List.getElem?_singleton, Option.ite_none_right_eq_some] at hf
    obtain ⟨hlast, hf⟩ := hf
    obtain rfl := Option.some.inj hf
    have hcounted : nextRetryCount row.retryCount = (place + 1 : Nat) := by
      rw [nextRetryCount_of_lt h.below hmax, hcount]
      omega
    refine .inr ?_
    rw [Row.nextRetryAt_markFailed, if_neg h.unsent, hcounted, backoffSeconds_natCast]
    rfl

/-- In a store, the record of a failure changes the row that it is about and no other one. -/
private theorem change_failed {row other : Row} (hu : (rows.map (·.id)).Nodup) (hr : row ∈ rows)
    (hm : other ∈ rows) (reason : String) :
    other = row ∧
        (Call.markFailed row.id true).change now reason other = row.markFailed now reason ∨
      other.id ≠ row.id ∧ (Call.markFailed row.id true).change now reason other = other := by
  by_cases hid : other.id = row.id
  · obtain rfl := List.inj_on_of_nodup_map hu hm hr hid
    exact .inl ⟨rfl, by simp [Call.change]⟩
  · exact .inr ⟨hid, by simp [Call.change, hid]⟩

/-- A step that records a failure of a row that is held. -/
private theorem Scheduled.fail (hmax : (limit : Int) ≤ maxRetryCount)
    (hu : (rows.map (·.id)).Nodup) {row : Row} {outcome : Except BrokerError Unit}
    {rest : List Row} {report report' : Report} (reason : String)
    (h : Scheduled limit rows (.recording row outcome rest report) journal now) :
    Scheduled limit (rows.map ((Call.markFailed row.id true).change now reason))
      (.working rest report') (journal ++ [.failure limit now row]) now := by
  have hready := h.held row List.mem_cons_self
  have hcount := h.counted row hready.stored
  have hparks : Parks limit journal (.failure limit now row) :=
    parks_failure hmax hcount hready.below
  have hlt : (failuresOf row.id journal).length < limit := by
    have hbelow := hready.below
    omega
  have hothers : ∀ id ≠ row.id,
      failuresOf id (journal ++ [.failure limit now row]) = failuresOf id journal := by
    intro id hne
    rw [failuresOf_failure, if_neg hne]
  constructor
  case held =>
    intro other hm
    have hother := h.held other (List.mem_cons_of_mem _ hm)
    have hne := h.ne_of_mem_rest hm
    refine { hother with stored := ?_, due := ?_ }
    · refine List.mem_map.mpr ⟨other, hother.stored, ?_⟩
      simp [Call.change, hne]
    · rw [Due, hothers other.id hne]
      exact hother.due
  case apart => exact (List.nodup_cons.mp h.apart).2
  case counted =>
    refine List.forall_mem_map.mpr fun other hm => ?_
    rw [Call.id_change]
    rcases change_failed hu hready.stored hm reason with ⟨rfl, he⟩ | ⟨hne, he⟩ <;> rw [he]
    · rw [Row.retryCount_markFailed, if_neg hready.unsent,
        nextRetryCount_of_lt hready.below hmax, hcount, failuresOf_failure, if_pos rfl]
      simp
    · rw [hothers other.id hne]
      exact h.counted other hm
  case limited =>
    intro id
    rw [failuresOf_failure]
    split
    · next hid =>
      subst hid
      rw [List.length_append, List.length_singleton]
      exact hlt
    · exact h.limited id
  case known =>
    intro id hf
    rw [Call.ids_change]
    by_cases hid : id = row.id
    · subst hid
      exact List.mem_map_of_mem hready.stored
    · rw [hothers id hid] at hf
      exact h.known id hf
  case waiting =>
    refine List.forall_mem_map.mpr fun other hm place failure hf => ?_
    rw [Call.id_change] at hf
    rcases change_failed hu hready.stored hm reason with ⟨rfl, he⟩ | ⟨hne, he⟩ <;> rw [he]
    · exact hready.waits hmax hcount reason hf
    · rw [hothers other.id hne] at hf
      exact h.waiting other hm place failure hf
  case claims => exact h.claims.concat (by simp [ClaimsOnTime, Deed.failure])
  case parks => exact h.parks.concat hparks
  case told =>
    refine h.told_concat hparks fun id hf => ?_
    rw [Deed.fails_failure, decide_eq_true_eq] at hf
    subst hf
    exact hlt

/-- A turn keeps the schedule. -/
private theorem Scheduled.turn {world : World} {deed : Deed}
    (hmax : (limit : Int) ≤ maxRetryCount) (hu : (rows.map (·.id)).Nodup)
    (h : Scheduled limit rows stage journal world.clock)
    (ht : Turn (some limit) world rows stage stage' rows' deed) :
    Scheduled limit rows' stage' (journal ++ [deed]) world.clock := by
  cases ht with
  | rest hrows hnotices =>
    exact h.quiet (fun _ => rfl) hnotices (by simp [ClaimsOnTime]) (by simp [hrows])
      (by simp [hrows])
  | @claim batch report batchSize hbatch =>
    have hready : ∀ row ∈ batch, Ready limit rows journal world.clock row := by
      rw [hbatch]
      exact fun row hm => h.ready_of_claim hm
    have hclaims : ClaimsOnTime limit journal ⟨world.clock, batch, none, []⟩ := by
      intro row hm
      have hbelow := (hready row hm).below
      rw [h.counted row (hready row hm).stored] at hbelow
      exact ⟨(hready row hm).due, by omega⟩
    refine h.quiet (fun _ => rfl) (by simp) hclaims hready ?_
    rw [hbatch]
    exact Store.nodup_claim hu batchSize world.clock
  | send houtcome => exact h.quiet (fun _ => rfl) (by simp) (by simp [ClaimsOnTime]) h.held h.apart
  | @sent row rest report report' notice recorded hnotice =>
    refine h.mark (fun _ => rfl) (by simpa using fun id => (hnotice id).symm)
      (by simp [ClaimsOnTime]) _ (fun other hm => ?_) (fun other hm => ?_)
      (List.nodup_cons.mp h.apart).2
    · refine (Call.change_markSent world.clock "" row.id recorded other).imp_right ?_
      rintro ⟨hid, he⟩
      have hstored := (h.held row List.mem_cons_self).stored
      obtain rfl := List.inj_on_of_nodup_map hu hm hstored hid
      exact ⟨List.mem_cons_self, world.clock, he⟩
    · have hother := h.held other (List.mem_cons_of_mem _ hm)
      refine { hother with stored := List.mem_map.mpr ⟨other, hother.stored, ?_⟩ }
      simp [Call.change, h.ne_of_mem_rest hm]
  | @failed row error rest report report' recorded =>
    cases recorded with
    | true => exact h.fail hmax hu error.message
    | false =>
      have hunchanged : rows.map ((Call.markFailed row.id false).change world.clock
          error.message) = rows := List.map_id'' (fun _ => by simp [Call.change]) rows
      rw [hunchanged]
      exact h.quiet (by simp [Deed.fails]) (by simp [failureNotice]) (by simp [ClaimsOnTime])
        (fun other hm => h.held other (List.mem_cons_of_mem _ hm)) (List.nodup_cons.mp h.apart).2

/-- A commit keeps the schedule: its rows have not failed yet. -/
private theorem Scheduled.commit (h : Scheduled limit rows stage journal now)
    (drafts : List Draft) (hu : (rows.map (·.id) ++ drafts.map (·.id)).Nodup) :
    Scheduled limit (rows ++ drafts.map (Row.ofDraft · now)) stage journal now := by
  have hnew : ∀ row ∈ drafts.map (Row.ofDraft · now),
      row.retryCount = 0 ∧ failuresOf row.id journal = [] := by
    refine List.forall_mem_map.mpr fun draft hd => ⟨rfl, ?_⟩
    by_contra hf
    exact (List.nodup_append'.mp hu).2.2 (h.known draft.id hf) (List.mem_map_of_mem hd)
  refine { h with held := ?_, counted := ?_, known := ?_, waiting := ?_ }
  · intro row hm
    have hready := h.held row hm
    exact { hready with stored := List.mem_append_left _ hready.stored }
  · refine List.forall_mem_append.mpr ⟨h.counted, fun row hm => ?_⟩
    obtain ⟨hcount, hnone⟩ := hnew row hm
    rw [hcount, hnone]
    rfl
  · intro id hf
    rw [List.map_append]
    exact List.mem_append_left _ (h.known id hf)
  · refine List.forall_mem_append.mpr ⟨h.waiting, fun row hm place failure hf => ?_⟩
    rw [(hnew row hm).2] at hf
    cases hf

variable {solo : Solo}

/-- The schedule holds at all times. -/
theorem Reachable.scheduled (hlimit : 1 ≤ limit) (hmax : (limit : Int) ≤ maxRetryCount)
    (h : Reachable (some limit) (fun _ => True) solo) :
    Scheduled limit solo.rows solo.stage solo.journal solo.world.clock := by
  refine (h.induct (Scheduled limit) ?start ⟨?turn, ?commit, ?wait⟩).2
  case start =>
    intro now
    constructor
    case held => simp [Stage.rows]
    case apart => exact .nil
    case counted => simp
    case limited => simp [failuresOf]
    case known => simp [failuresOf]
    case waiting => simp
    case claims => exact throughout_nil
    case parks => exact throughout_nil
    case told => exact fun id => (if_neg (show 0 ≠ limit by omega)).symm
  case turn => exact fun _ hu hs ht => hs.turn hmax hu ht
  case commit => exact fun drafts _ hu hs => hs.commit drafts hu
  case wait =>
    intro rows stage journal now later hle hs
    refine { hs with held := fun row hm => (hs.held row hm).later hle, waiting := ?_ }
    intro row hm place failure hf
    exact (hs.waiting row hm place failure hf).imp_left (Instant.le_trans · hle)

/-- Retries come on schedule and end at the ceiling. With the same ceiling for the publisher and
its store: no row has more failures than the ceiling. Every step claims only rows with fewer
failures than that, and none before the time after each of its failures has passed; no claim at all
yields any other row. And the row whose last failure it is, is reported as parked by the step that
records the failure, and at no other time. -/
theorem Reachable.retry_schedule (hlimit : 1 ≤ limit) (hmax : (limit : Int) ≤ maxRetryCount)
    (h : Reachable (some limit) (fun _ => True) solo) :
    (∀ id, (failuresOf id solo.journal).length ≤ limit) ∧
      Throughout (fun before deed => ∀ row ∈ deed.claimed,
        (failuresOf row.id before).length < limit ∧
          ∀ place failure, (failuresOf row.id before)[place]? = some failure →
            dueAfter place failure ≤ deed.now) solo.journal ∧
      (∀ batchSize now, ∀ row ∈ (Store.mk solo.rows (some limit)).claim batchSize now,
        (failuresOf row.id solo.journal).length < limit) ∧
      Throughout (fun before deed => ∀ id, deed.notices.count (.parked id) =
        if deed.fails id ∧ (failuresOf id before).length + 1 = limit then 1 else 0) solo.journal ∧
      ∀ id, (solo.journal.flatMap (·.notices)).count (.parked id) =
        if (failuresOf id solo.journal).length = limit then 1 else 0 := by
  have hs := h.scheduled hlimit hmax
  refine ⟨hs.limited, ?_, ?_, hs.parks, hs.told⟩
  · intro before deed later hsplit row hm
    exact (hs.claims before deed later hsplit row hm).symm
  · intro batchSize now row hm
    obtain ⟨hstored, heligible⟩ := Store.mem_claim hm
    simp only [Row.isEligible, Bool.and_eq_true, decide_eq_true_eq, Option.getD_some] at heligible
    have hcount := hs.counted row hstored
    omega

section Exhausted

/-- An empty store with a ceiling of two, a broker that is down, a failure that is going to be
recorded in vain, and a transaction with one event. -/
def outage : Solo where
  world :=
    let world := World.start ⟨1784105400, 0⟩ ⟨1784105400, 0⟩ (.memory (.empty (some 2))) none
    { world with
      broker := { world.broker with available := false }
      faults := { world.faults with markFailed := 1 }
      transactions := [("hire", ⟨[Draft.ofEvent (Uuid.reserved 1)
        (EmployeeCreated.new (Uuid.reserved 2) (Uuid.reserved 3) none ⟨1784105400, 0⟩)]⟩)] }
  stage := .idle
  journal := []

/-- The row is committed. -/
def enlisted : Solo := { outage with world := outage.world.commitTransaction "hire" }

/-- The publisher makes the five steps of a tick with one row. -/
def ticked (solo : Solo) : Solo := (Solo.advance (some 2) 10)^[5] solo

/-- The row is tried twice at once, for the first failure was not recorded. -/
def refused : Solo := enlisted.ticked.ticked

/-- Fifteen seconds later the row is due again. -/
def dueAgain : Solo :=
  { refused with world := { refused.world with clock := ⟨1784105415, 0⟩ } }

/-- The row is tried for the last time. -/
def exhausted : Solo := dueAgain.ticked

theorem reachable_exhausted : Reachable (some 2) (fun _ => True) exhausted := by
  have houtage : Reachable (some 2) (fun _ => True) outage := .start _ rfl rfl trivial
  have henlisted : Reachable (some 2) (fun _ => True) enlisted :=
    houtage.step (.commit "hire" (by decide +kernel) (by decide +kernel) (by decide +kernel))
      (by decide +kernel) trivial
  have hrefused : Reachable (some 2) (fun _ => True) refused :=
    (henlisted.advances 10 5 fun _ => trivial).advances 10 5 fun _ => trivial
  have hdue : Reachable (some 2) (fun _ => True) dueAgain :=
    hrefused.step (.change _ ⟨rfl, rfl⟩) (by decide +kernel) trivial
  exact hdue.advances 10 5 fun _ => trivial

/-- Of three attempts, the last one fifteen seconds after the others, two are recorded; the row is
reported as parked once, and is not claimed again. -/
theorem exhausted_on_schedule :
    (failuresOf (Uuid.reserved 1) exhausted.journal).map (·.now) =
        [⟨1784105400, 0⟩, ⟨1784105415, 0⟩] ∧
      exhausted.journal.countP (fun deed => deed.claimed ≠ []) = 3 ∧
      (exhausted.journal.flatMap (·.notices)).count (.parked (Uuid.reserved 1)) = 1 ∧
      ∀ batchSize now, ∀ row ∈ (Store.mk exhausted.rows (some 2)).claim batchSize now,
        (failuresOf row.id exhausted.journal).length < 2 := by
  have hreachable : Reachable (some ((2 : Nat) : Int)) (fun _ => True) exhausted :=
    reachable_exhausted
  obtain ⟨-, -, hclaim, -, htold⟩ := hreachable.retry_schedule (by decide) (by decide)
  have hfailures : (failuresOf (Uuid.reserved 1) exhausted.journal).length = 2 := by
    decide +kernel
  refine ⟨by decide +kernel, by decide +kernel, ?_, hclaim⟩
  rw [htold, if_pos hfailures]

end Exhausted

end Solo
end Publisher
end HrPipeline
