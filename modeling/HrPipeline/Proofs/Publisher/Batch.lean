import HrPipeline.Proofs.Outbox.Marks
import HrPipeline.Publisher.Tick

/-!
# What a tick does to its batch

A tick on a store in memory works on a first part of the batch that it has claimed, and its report
counts what became of the rows of this part. `Circumstances` are all that is not up to the
publisher: the clock, the answers of the broker, calls that do not get through to the store, and
requests for a shutdown. Each of these may depend on all the calls before, so that a shutdown may be
requested at any time, also while a message is being sent or the answer to it recorded.

An `Attempt` is what became of a row. `Circumstances.Bring` says which attempts are made at one row
after the other, and `Covers` what a tick that made these attempts leaves behind.
-/

namespace HrPipeline.Publisher

open HrPipeline.Broker HrPipeline.Calendar HrPipeline.Outbox

/-- A call of a publisher, with its answer. -/
inductive Exchange where
  | claim (limit : Int) (answer : Except OutboxError (List Row))
  | send (message : Outbound) (answer : Except BrokerError Unit)
  | markSent (id : Uuid) (answer : Except OutboxError Unit)
  | markFailed (id : Uuid) (reason : String) (answer : Except OutboxError Unit)

/-- What a publisher with a store in memory meets with, by the calls it has made before. -/
structure Circumstances where
  clock : List Exchange → Instant
  /-- Whether a call gets through to the store, or how it fails without an effect. -/
  reach : List Exchange → Except OutboxError Unit
  broker : List Exchange → Outbound → Except BrokerError Unit
  /-- Whether a shutdown was requested. -/
  cancelled : List Exchange → Bool

/-- A store in memory, and the calls that a publisher has made. -/
structure Site where
  store : Store
  calls : List Exchange

/-- Keeps the store that a call leaves behind, and the call with its answer. -/
def Site.keep (site : Site) (exchange : Except OutboxError Unit → Exchange) :
    Except OutboxError Store → Except OutboxError Unit × Site
  | .ok store => (.ok (), ⟨store, site.calls ++ [exchange (.ok ())]⟩)
  | .error error => (.error error, { site with calls := site.calls ++ [exchange (.error error)] })

/-- What a publisher calls in circumstances. -/
def Circumstances.outlet (c : Circumstances) : Outlet Site where
  claim limit site :=
    let answer := (c.reach site.calls).map fun _ => site.store.claim limit (c.clock site.calls)
    (answer, { site with calls := site.calls ++ [.claim limit answer] })
  send message site :=
    let answer := c.broker site.calls message
    (answer, { site with calls := site.calls ++ [.send message answer] })
  markSent id site := site.keep (.markSent id)
    ((c.reach site.calls).bind fun _ => site.store.markSent id (c.clock site.calls))
  markFailed id reason site := site.keep (.markFailed id reason)
    ((c.reach site.calls).bind fun _ => site.store.markFailed id reason (c.clock site.calls))
  cancelled site := c.cancelled site.calls
  note _ site := site

/-- An attempt at a row of a batch. -/
structure Attempt where
  row : Row
  /-- The answer of the broker to the message of the row. -/
  sent : Except BrokerError Unit
  /-- When that answer was to be recorded. -/
  at_ : Instant
  /-- The answer of the store to the record. -/
  recorded : Except OutboxError Unit

namespace Attempt

variable (attempt : Attempt)

/-- The sending of the message. -/
def send : Exchange := .send (Outbound.ofRow attempt.row) attempt.sent

/-- The record of the answer of the broker. -/
def mark : Exchange :=
  match attempt.sent with
  | .ok () => .markSent attempt.row.id attempt.recorded
  | .error error => .markFailed attempt.row.id error.message attempt.recorded

/-- The message was accepted, and that was recorded. -/
def published : Bool := attempt.sent.isOk && attempt.recorded.isOk

/-- The message was rejected. -/
def failed : Bool := !attempt.sent.isOk

/-- The message was accepted, and that was not recorded. -/
def unrecorded : Bool := attempt.sent.isOk && !attempt.recorded.isOk

/-- The row as it is after the record. -/
def change (row : Row) : Row :=
  match attempt.recorded, attempt.sent with
  | .ok (), .ok () => row.markSent attempt.at_
  | .ok (), .error error => row.markFailed attempt.at_ error.message
  | .error _, _ => row

theorem change_id (row : Row) : (attempt.change row).id = row.id := by
  unfold change
  split
  · exact Row.markSent_id _ row
  · exact Row.markFailed_id _ _ row
  · rfl

end Attempt

/-- The attempt that is made at a row after some calls. -/
def Circumstances.attempt (c : Circumstances) (calls : List Exchange) (row : Row) : Attempt :=
  let sent := c.broker calls (Outbound.ofRow row)
  let now := calls ++ [.send (Outbound.ofRow row) sent]
  ⟨row, sent, c.clock now, c.reach now⟩

/-- Attempts that circumstances bring about one after the other. There is no request for a shutdown
when the publisher turns to a row; there may be one right after. -/
inductive Circumstances.Bring (c : Circumstances) : List Exchange → List Attempt → Prop where
  | nil (calls : List Exchange) : Bring c calls []
  | cons {calls : List Exchange} {attempt : Attempt} {attempts : List Attempt}
      (running : c.cancelled calls = false) (made : attempt = c.attempt calls attempt.row)
      (rest : Bring c (calls ++ [attempt.send, attempt.mark]) attempts) :
      Bring c calls (attempt :: attempts)

/-- The rows after attempts at some of them. -/
def afterAttempts (attempts : List Attempt) (rows : List Row) : List Row :=
  rows.map fun row =>
    match attempts.find? (·.row.id = row.id) with
    | some attempt => attempt.change row
    | none => row

theorem afterAttempts_nil (rows : List Row) : afterAttempts [] rows = rows := List.map_id' rows

/-- The attempts at different rows can be recorded one after the other. -/
theorem afterAttempts_cons {attempt : Attempt} {attempts : List Attempt}
    (hnew : ∀ other ∈ attempts, other.row.id ≠ attempt.row.id) (rows : List Row) :
    afterAttempts (attempt :: attempts) rows = afterAttempts attempts
      (rows.map fun row => if row.id = attempt.row.id then attempt.change row else row) := by
  rw [afterAttempts, afterAttempts, List.map_map]
  refine List.map_congr_left fun row _ => ?_
  simp only [Function.comp_apply]
  by_cases hid : row.id = attempt.row.id
  · have hnone : attempts.find? (·.row.id = (attempt.change row).id) = none := by
      rw [List.find?_eq_none]
      intro other hm
      simpa [Attempt.change_id, hid] using hnew other hm
    rw [List.find?_cons_of_pos (by simp [hid]), if_pos hid, hnone]
  · rw [List.find?_cons_of_neg (by simpa using Ne.symm hid), if_neg hid]

/-- The report after some more attempts. -/
def Report.add (report : Report) (attempts : List Attempt) : Report :=
  { report with
    published := report.published + attempts.countP (·.published)
    failed := report.failed + attempts.countP (·.failed)
    markSentErrors := report.markSentErrors + attempts.countP (·.unrecorded) }

theorem Report.add_cons (report : Report) (attempt : Attempt) (attempts : List Attempt) :
    report.add (attempt :: attempts) = (report.add [attempt]).add attempts := by
  simp only [add, List.countP_cons, List.countP_nil, mk.injEq, true_and, and_true]
  omega

/-- Every attempt is counted once. -/
theorem count_attempts (attempts : List Attempt) :
    attempts.countP (·.published) + attempts.countP (·.failed) + attempts.countP (·.unrecorded) =
      attempts.length := by
  induction attempts with
  | nil => rfl
  | cons attempt attempts ih =>
    have hone : (if attempt.published then 1 else 0) + (if attempt.failed then 1 else 0) +
        (if attempt.unrecorded then 1 else 0) = 1 := by
      unfold Attempt.published Attempt.failed Attempt.unrecorded
      cases attempt.sent.isOk <;> cases attempt.recorded.isOk <;> rfl
    simp only [List.countP_cons, List.length_cons]
    omega

/-- A site after one more attempt. -/
def Site.settle (site : Site) (attempt : Attempt) : Site :=
  ⟨{ site.store with rows := site.store.rows.map fun row =>
      if row.id = attempt.row.id then attempt.change row else row },
    site.calls ++ [attempt.send, attempt.mark]⟩

theorem Site.ids_settle (site : Site) (attempt : Attempt) :
    (site.settle attempt).store.rows.map (·.id) = site.store.rows.map (·.id) :=
  ids_map fun row => attempt.change_id row

section Drain

variable (c : Circumstances) (maxAttempts : Option Int)

/-- An update of a stored row, which succeeds if the call gets through to the store. -/
theorem keep_update (site : Site) (hu : (site.store.rows.map (·.id)).Nodup) {id : Uuid}
    (hm : id ∈ site.store.rows.map (·.id)) (exchange : Except OutboxError Unit → Exchange)
    (change : Row → Row) (reached : Except OutboxError Unit) :
    site.keep exchange (reached.bind fun _ => site.store.update id change) = (reached,
      ⟨{ site.store with rows := site.store.rows.map fun row =>
          if row.id = id then (match reached with | .ok () => change row | .error _ => row)
          else row },
        site.calls ++ [exchange reached]⟩) := by
  cases reached with
  | error error =>
    show (Except.error error, (⟨site.store, site.calls ++ [exchange (.error error)]⟩ : Site)) = _
    simp
  | ok reached =>
    obtain ⟨row, hr, hid⟩ := List.mem_map.mp hm
    have hany : site.store.rows.any (·.id = id) = true :=
      List.any_eq_true.mpr ⟨row, hr, decide_eq_true hid⟩
    show site.keep exchange (site.store.update id change) = _
    rw [Store.update_eq hu, if_pos hany]
    rfl

/-- The message of a stored row is sent, and the answer recorded. -/
theorem publishRow_eq {site : Site} (hu : (site.store.rows.map (·.id)).Nodup) {row : Row}
    (hm : row.id ∈ site.store.rows.map (·.id)) (report : Report) :
    publishRow c.outlet maxAttempts row report site =
      (report.add [c.attempt site.calls row], site.settle (c.attempt site.calls row)) := by
  unfold publishRow
  cases hsent : c.broker site.calls (Outbound.ofRow row) with
  | ok sent =>
    generalize hcalls : site.calls ++ [.send (Outbound.ofRow row) (.ok sent)] = calls
    have hmark := keep_update ⟨site.store, calls⟩ hu hm (.markSent row.id)
      (·.markSent (c.clock calls)) (c.reach calls)
    simp only [record, Circumstances.outlet, hsent, hcalls, Store.markSent, hmark, Site.settle,
      Circumstances.attempt, Attempt.send, Attempt.mark, Attempt.change]
    rw [← hcalls, List.append_assoc]
    cases c.reach _ <;> rfl
  | error error =>
    generalize hcalls : site.calls ++ [.send (Outbound.ofRow row) (.error error)] = calls
    have hmark := keep_update ⟨site.store, calls⟩ hu hm (.markFailed row.id error.message)
      (·.markFailed (c.clock calls) error.message) (c.reach calls)
    simp only [record, Circumstances.outlet, hsent, hcalls, Store.markFailed, hmark, Site.settle,
      Circumstances.attempt, Attempt.send, Attempt.mark, Attempt.change]
    rw [← hcalls, List.append_assoc]
    cases c.reach _ with
    | error _ => rfl
    | ok _ =>
      simp only
      split <;> rfl

/-- What a publisher leaves behind that works on a first part of a batch. -/
structure Covers (batch : List Row) (site : Site) (attempts : List Attempt) (after : Site) :
    Prop where
  rows : attempts.map (·.row) <+: batch
  brought : c.Bring site.calls attempts
  /-- One message is sent for each row of the part, and one record made of the answer to it. -/
  calls : after.calls = site.calls ++ attempts.flatMap fun attempt => [attempt.send, attempt.mark]
  store : after.store = { site.store with rows := afterAttempts attempts site.store.rows }
  /-- Only a request for a shutdown keeps the publisher from the rest of the batch. -/
  stopped : attempts.length < batch.length → c.cancelled after.calls = true

variable {c}

/-- A publisher that stops leaves everything as it is. -/
theorem Covers.stop {batch : List Row} {site : Site}
    (h : 0 < batch.length → c.cancelled site.calls = true) : Covers c batch site [] site where
  rows := List.nil_prefix
  brought := .nil _
  calls := (List.append_nil _).symm
  store := by rw [afterAttempts_nil]
  stopped := h

/-- A publisher that goes on has one row behind it. -/
theorem Covers.step {row : Row} {rest : List Row} {site after : Site} {attempts : List Attempt}
    (hc : c.cancelled site.calls = false) (hnew : row.id ∉ rest.map (·.id))
    (h : Covers c rest (site.settle (c.attempt site.calls row)) attempts after) :
    Covers c (row :: rest) site (c.attempt site.calls row :: attempts) after where
  rows := List.cons_prefix_cons.mpr ⟨rfl, h.rows⟩
  brought := .cons hc rfl h.brought
  calls := by
    rw [h.calls, List.flatMap_cons, ← List.append_assoc]
    rfl
  store := by
    rw [h.store, afterAttempts_cons]
    · rfl
    · intro other ho hid
      apply hnew
      rw [show row.id = other.row.id from hid.symm]
      exact List.mem_map_of_mem (h.rows.subset (List.mem_map_of_mem ho))
  stopped hlt := h.stopped (Nat.lt_of_succ_lt_succ hlt)

/-- A batch of stored rows is worked on until a shutdown is requested. -/
theorem drain_covers {batch : List Row} (site : Site) (hu : (site.store.rows.map (·.id)).Nodup)
    (hb : (batch.map (·.id)).Nodup) (hm : ∀ row ∈ batch, row.id ∈ site.store.rows.map (·.id))
    (report : Report) :
    ∃ attempts, Covers c batch site attempts (drain c.outlet maxAttempts batch report site).2 ∧
      (drain c.outlet maxAttempts batch report site).1 = { report.add attempts with
        interrupted := report.interrupted || decide (attempts.length < batch.length) } := by
  induction batch generalizing site report with
  | nil => exact ⟨[], .stop fun h => absurd h (Nat.lt_irrefl 0), by simp [drain, Report.add]⟩
  | cons row rest ih =>
    cases hc : c.cancelled site.calls with
    | true =>
      have hdrain : drain c.outlet maxAttempts (row :: rest) report site =
          ({ report with interrupted := true }, site) := if_pos hc
      rw [hdrain]
      exact ⟨[], .stop fun _ => hc, by simp [Report.add]⟩
    | false =>
      obtain ⟨hrow, hrest⟩ := List.nodup_cons.mp hb
      have hids := site.ids_settle (c.attempt site.calls row)
      obtain ⟨attempts, hcovers, hreport⟩ := ih _ (hids ▸ hu) hrest
        (fun other ho => hids ▸ hm other (List.mem_cons_of_mem row ho))
        (report.add [c.attempt site.calls row])
      have hdrain : drain c.outlet maxAttempts (row :: rest) report site =
          drain c.outlet maxAttempts rest (report.add [c.attempt site.calls row])
            (site.settle (c.attempt site.calls row)) := by
        rw [drain, if_neg (by simp [Circumstances.outlet, hc]),
          publishRow_eq c maxAttempts hu (hm row List.mem_cons_self)]
      rw [hdrain]
      refine ⟨_, hcovers.step hc hrow, ?_⟩
      rw [hreport, ← Report.add_cons report]
      simp only [List.length_cons, Nat.add_lt_add_iff_right]
      rfl

variable (c)

/-- What a publisher leaves behind, with the report that it gives of it. -/
structure Accounts (batch : List Row) (site : Site) (attempts : List Attempt) (report : Report)
    (after : Site) : Prop extends Covers c batch site attempts after where
  claimed : report.claimed = batch.length
  published : report.published = attempts.countP (·.published)
  failed : report.failed = attempts.countP (·.failed)
  markSentErrors : report.markSentErrors = attempts.countP (·.unrecorded)
  total : report.published + report.failed + report.markSentErrors = attempts.length
  complete : report.interrupted = false → attempts.length = report.claimed
  short : report.interrupted = true → attempts.length < report.claimed

variable {c}

theorem Covers.accounts {batch : List Row} {site after : Site} {attempts : List Attempt}
    (h : Covers c batch site attempts after) :
    Accounts c batch site attempts
      { ({ Report.empty with claimed := batch.length } : Report).add attempts with
        interrupted := decide (attempts.length < batch.length) } after where
  toCovers := h
  claimed := rfl
  published := Nat.zero_add _
  failed := Nat.zero_add _
  markSentErrors := Nat.zero_add _
  total := by
    rw [← count_attempts attempts]
    simp [Report.add, Report.empty]
  complete hnot := by
    have hle : attempts.length ≤ batch.length := by simpa using h.rows.length_le
    exact Nat.le_antisymm hle (Nat.not_lt.mp (of_decide_eq_false hnot))
  short := of_decide_eq_true

/-- A tick works on a first part of the batch that it has claimed, and its report is exact. The part
is the whole batch unless a shutdown is requested. A tick that starts after such a request does
nothing, and a tick whose claim fails does nothing else. -/
theorem tick_accounts (c : Circumstances) (maxAttempts : Option Int) (batchSize : Int) (site : Site)
    (hu : (site.store.rows.map (·.id)).Nodup) :
    (c.cancelled site.calls = true → tick c.outlet maxAttempts batchSize site =
        (.ok { Report.empty with interrupted := true }, site)) ∧
      (c.cancelled site.calls = false → ∀ error, c.reach site.calls = .error error →
        tick c.outlet maxAttempts batchSize site =
          (.error error, { site with calls := site.calls ++ [.claim batchSize (.error error)] })) ∧
      (c.cancelled site.calls = false → c.reach site.calls = .ok () →
        ∃ batch attempts report after, batch = site.store.claim batchSize (c.clock site.calls) ∧
          tick c.outlet maxAttempts batchSize site = (.ok report, after) ∧
          Accounts c batch { site with calls := site.calls ++ [.claim batchSize (.ok batch)] }
            attempts report after) := by
  refine ⟨fun hc => if_pos hc, fun hc error herror => ?_, fun hc hreach => ?_⟩
  · rw [tick, if_neg (by simp [Circumstances.outlet, hc])]
    simp [Circumstances.outlet, herror, Except.map]
  · generalize hbatch : site.store.claim batchSize (c.clock site.calls) = batch
    have hstored : ∀ row ∈ batch, row.id ∈ site.store.rows.map (·.id) := by
      intro row hr
      rw [← hbatch] at hr
      exact List.mem_map_of_mem (Store.mem_claim hr).1
    obtain ⟨attempts, hcovers, hreport⟩ := drain_covers (c := c) maxAttempts
      { site with calls := site.calls ++ [.claim batchSize (.ok batch)] } hu
      (hbatch ▸ Store.nodup_claim hu batchSize _) hstored
      { Report.empty with claimed := batch.length }
    have hclaim : c.outlet.claim batchSize site =
        (.ok batch, { site with calls := site.calls ++ [.claim batchSize (.ok batch)] }) := by
      simp [Circumstances.outlet, hreach, hbatch, Except.map]
    refine ⟨batch, attempts, _, _, rfl, ?_, hcovers.accounts⟩
    rw [tick, if_neg (by simp [Circumstances.outlet, hc]), hclaim]
    exact congrArg (fun report => (Except.ok report, _)) hreport

end Drain

/-- A row that waits to be sent. -/
def waiting (number : Nat) : Row :=
  Row.ofDraft ⟨Uuid.reserved number, none, "employee", "7", "employee.created", "hr", [123, 125],
    .pending⟩ ⟨0, 0⟩

/-- A store with three rows that wait to be sent. -/
def three : Store := ⟨[waiting 1, waiting 2, waiting 3], none⟩

/-- A broker accepts a first message and no other, and the store cannot be reached to record that.
While the second message is being sent, a shutdown is requested. -/
def troubled : Circumstances where
  clock calls := ⟨calls.length, 0⟩
  reach calls := if calls.length = 2 then .error (.pool "reset") else .ok ()
  broker calls _ := if calls.length = 1 then .ok () else .error (.client "down")
  cancelled calls := 4 ≤ calls.length

/-- All three rows are claimed, the oldest first. -/
private theorem claim_three : three.claim 3 ⟨0, 0⟩ = three.rows := by
  have hall : three.rows.filter (·.isEligible none ⟨0, 0⟩) = three.rows := by decide +kernel
  have hsorted : three.rows.Pairwise fun a b => decide (a.createdAt ≤ b.createdAt) = true := by
    decide +kernel
  rw [Store.claim, show three.maxAttempts = none from rfl, hall, oldestFirst,
    List.mergeSort_of_pairwise hsorted]
  rfl

/-- The second row is still recorded as failed, and the third is left alone. -/
theorem troubled_accounts :
    ∃ attempts after, tick troubled.outlet none 3 ⟨three, []⟩ = (.ok ⟨3, 0, 1, 1, true⟩, after) ∧
      after.store.rows =
        [waiting 1, (waiting 2).markFailed ⟨4, 0⟩ "broker client error: down", waiting 3] ∧
      Accounts troubled three.rows ⟨three, [.claim 3 (.ok three.rows)]⟩ attempts ⟨3, 0, 1, 1, true⟩
        after := by
  obtain ⟨-, -, h⟩ := tick_accounts troubled none 3 ⟨three, []⟩ (by decide)
  obtain ⟨batch, attempts, report, after, rfl, htick, haccounts⟩ := h rfl rfl
  have hclaim : three.claim 3 (troubled.clock []) = three.rows := claim_three
  simp only [hclaim] at htick haccounts
  have hresult : (tick troubled.outlet none 3 ⟨three, []⟩).1 = .ok ⟨3, 0, 1, 1, true⟩ ∧
      (tick troubled.outlet none 3 ⟨three, []⟩).2.store.rows =
        [waiting 1, (waiting 2).markFailed ⟨4, 0⟩ "broker client error: down", waiting 3] := by
    rw [tick, if_neg (by decide)]
    simp only [Circumstances.outlet, hclaim]
    exact ⟨rfl, rfl⟩
  rw [htick] at hresult
  obtain ⟨hreport, hrows⟩ := hresult
  obtain rfl := Except.ok.inj hreport
  exact ⟨attempts, after, htick, hrows, haccounts⟩

end HrPipeline.Publisher
