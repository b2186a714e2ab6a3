import HrPipeline.Proofs.Scenario.Announcements

/-!
# Every event is consumed

Each step keeps a pipeline sound. A request stores what the effect of its event needs together with
the row of the event; a publisher makes messages only of rows; and a consumer that has a message in
hand finds an event whose effect the tables allow. So no message is undecodable, none is of another
kind, and no effect fails.
-/

namespace HrPipeline

open HrPipeline.Broker HrPipeline.Consumer HrPipeline.Outbox

namespace Scenario

namespace Pipeline

variable {pipeline pipeline' : Pipeline} {db db' : Database} {message : Inbound} {member : Member}

section Requests

/-- A new row about an employee tells of its event, and on the other topic of nothing. -/
private theorem tells_of_employee {event : EmployeeCreated} {row : Row} (h : row.Tells event)
    (he : event ∈ pipeline.employees.emitted) (hp : db.Employs event) :
    pipeline.Tells db row.topic row.payload where
  employee := announced_of_tells h he hp
  payslip ht := absurd (h.topic.symm.trans ht) (by decide)

/-- A new row about a payslip tells of its event, and on the other topic of nothing. -/
private theorem tells_of_payslip {event : PayslipRequested} {row : Row} (h : row.Tells event)
    (he : event ∈ pipeline.payslips.emitted) (hp : db.Owns event) :
    pipeline.Tells db row.topic row.payload where
  employee ht := absurd (h.topic.symm.trans ht) (by decide)
  payslip := announced_of_tells h he hp

/-- What a request adds to the tables and the journals is sound. -/
private theorem Sound.emit (h : pipeline.Sound db) {world : World}
    {employee? : Option EmployeeCreated} {payslip? : Option PayslipRequested}
    (he : Api.Emits db employee? payslip? db')
    (hs : ∃ mode ceiling, world.storage = .database db' mode ceiling)
    (hb : world.broker = pipeline.world.broker) :
    Sound { pipeline with
      world
      employees := pipeline.employees.emit employee?
      payslips := pipeline.payslips.emit payslip? } db' := by
  refine h.extend ⟨fun _ hm => List.mem_append_left _ hm, fun _ hm => List.mem_append_left _ hm,
    ?employees, ?payrolls⟩ hs ?rows (fun _ => .inl) (fun _ hm => .inl (hb ▸ hm)) (fun _ => .inl)
    ?revisions (h.employees.emit _) (h.payslips.emit _)
  case employees =>
    cases he <;> intro _ hm <;> first | exact hm | exact List.mem_append_left _ hm
  case payrolls =>
    cases he <;> intro _ hm <;> first | exact hm | exact List.mem_append_left _ hm
  case revisions => cases he <;> exact h.revisions
  case rows =>
    intro row hm
    cases he with
    | employee event employee row hid hr =>
      refine (List.mem_append.mp hm).imp .of_mem fun hm => ?_
      rw [List.mem_singleton.mp hm]
      exact tells_of_employee hr (List.mem_append_right _ (List.mem_singleton_self _))
        ⟨employee, List.mem_append_right _ (List.mem_singleton_self _), hid⟩
    | payslip event payroll row hp hid hc hr =>
      refine (List.mem_append.mp hm).imp .of_mem fun hm => ?_
      rw [List.mem_singleton.mp hm]
      exact tells_of_payslip hr (List.mem_append_right _ (List.mem_singleton_self _))
        ⟨payroll, hp, hid, hc⟩
    | payroll _ => exact .inl (.of_mem hm)
    | nothing => exact .inl (.of_mem hm)

/-- Answering a request keeps everything consumable. -/
theorem Sound.request (h : pipeline.Sound db) {context : Api.Context} (hnow : context.now.Valid)
    (request : Api.Request) : ∃ db', (pipeline.request context request).Sound db' := by
  obtain ⟨mode, ceiling, hs⟩ := h.storage
  obtain ⟨db', hstorage, hemits⟩ := Api.serve_emits hnow request db mode ceiling
  rw [← hs] at hstorage hemits
  refine ⟨db', h.emit hemits ⟨mode, ceiling, ?_⟩ ?_⟩
  · rw [World.noteAll_eq]
    exact hstorage
  · rw [World.noteAll_eq]

end Requests

section Publishing

/-- A call of a publisher keeps everything consumable: it makes no message but of a row. -/
theorem Sound.publish (h : pipeline.Sound db) (index : Nat) :
    ∃ db', (pipeline.publish index).Sound db' := by
  unfold Pipeline.publish
  cases hsender : pipeline.senders[index]? with
  | none => exact ⟨db, h⟩
  | some sender =>
    obtain ⟨mode, ceiling, hs⟩ := h.storage
    rcases ha : Publisher.advance World.outlet sender.maxAttempts sender.batchSize sender.stage
      pipeline.world with ⟨stage, world⟩
    simp only [ha]
    obtain ⟨⟨hframe, hrows⟩, hmessages, hheld⟩ := Publisher.forwards_advance ha
    have hsent : ∀ row ∈ sender.stage.rows, pipeline.Tells db row.topic row.payload :=
      h.senders sender (List.mem_of_getElem? hsender)
    rw [hs] at hframe hrows hheld
    refine ⟨{ db with outbox := world.storage.rows }, h.extend
      (.of_eq rfl rfl rfl rfl) ⟨mode, ceiling, hframe⟩ (fun row hm => .inl (hrows row hm)) ?senders
      ?messages (fun _ => .inl) h.revisions h.employees h.payslips⟩
    case senders =>
      intro other hm
      refine (List.mem_or_eq_of_mem_set hm).imp_right ?_
      rintro rfl row hr
      exact (hheld row hr).elim (hsent row) fun ho => tells_of_stemsFrom ho h.rows
    case messages =>
      intro message hm
      refine (hmessages message hm).imp_right ?_
      rintro ⟨row, hr, htopic, hpayload⟩
      exact ⟨row.payload, hpayload, htopic ▸ hsent row hr⟩

end Publishing

section Consuming

variable {ε : Type} [DomainEvent ε] {handle : ε → Bench → Except EffectError Unit × Bench}
  {journal : Journal ε} {allowed : Outcome → Prop}

/-- A consumer that keeps its task has a message of its topic in hand, if any. -/
private theorem Employed.of_task (h : pipeline.Employed db member) {world : World} {after : Bench}
    (ht : (member.bench world).SameTask after) {stage : Stage}
    (hm : ∀ message, stage.message? = some message →
      message.topic = member.worker.kind.topic ∧ pipeline.Carries db message)
    (pending : Option Inbound) : pipeline.Employed db (.ofBench stage pending after) where
  failures := ht.failures.trans h.failures
  topic := ht.topic.trans (h.topic.trans (congrArg ConsumerKind.topic ht.kind.symm))
  inHand message hs :=
    ⟨(hm message hs).1.trans (congrArg ConsumerKind.topic ht.kind.symm), (hm message hs).2⟩

/-- What a call of a consumer comes to: it keeps its task, and its journal stays sound. -/
structure Works (pipeline : Pipeline) (db db' : Database) (allowed : Outcome → Prop)
    (journal : Journal ε) (worked : Member × World × Journal ε) : Prop where
  member : pipeline.Employed db worked.1
  storage : ∃ mode ceiling, worked.2.1.storage = .database db' mode ceiling
  messages : worked.2.1.broker.messages = pipeline.world.broker.messages
  emitted : worked.2.2.emitted = journal.emitted
  calls : ∃ calls, worked.2.2.calls = journal.calls ++ calls
  sound : worked.2.2.Sound allowed

/-- A consumer that has no message to apply changes no table. -/
private theorem Sound.works_attending (h : pipeline.Sound db) (hm : pipeline.Employed db member)
    (hj : journal.Sound allowed) (hs : ∀ message, member.stage ≠ .holding message) :
    Works pipeline db db allowed journal
      (journal.work (Bench.intake handle) member pipeline.world) := by
  rcases ha : advance (Bench.intake handle).recorded member.stage member.worker.pending
    ⟨member.bench pipeline.world, []⟩ with ⟨stage, pending, after⟩
  have hattends := attends_of_message? hs ha
  obtain ⟨mode, ceiling, hstorage⟩ := h.storage
  simp only [Journal.work, ha, hattends.outcome]
  exact {
    member := by
      refine hm.of_task hattends.quiet.toSameTask (fun message hmessage => ?_) pending
      have hlog := hattends.message message hmessage
      refine ⟨(Log.topic_of_mem hlog).trans hm.topic, h.messages message ?_⟩
      unfold Log.topic at hlog
      exact List.mem_of_mem_filter hlog
    storage := ⟨mode, ceiling, hattends.quiet.storage.trans hstorage⟩
    messages := hattends.quiet.messages
    emitted := rfl
    calls := ⟨after.calls, rfl⟩
    sound := hj.add (fun event result hc => absurd hc (hattends.calls event result)) (by simp) }

/-- A consumer that has a message to apply does what the tables say to the effect of its event. -/
private theorem works_holding (hm : pipeline.Employed db member) (hj : journal.Sound allowed)
    {event : ε} (hevent : event ∈ journal.emitted) (hstage : member.stage = .holding message)
    (hd : Consumer.decode? ε message = some event) (hh : DomainEvent.isHandled event = true)
    {mode : ClaimMode} {ceiling : Option Int} {result : Except EffectError Database}
    (ht : (member.bench pipeline.world).Takes db mode ceiling result
      (handle event (member.bench pipeline.world)))
    (ho : allowed (.ofResult (result.map fun _ => ()))) :
    (journal.work (Bench.intake handle) member pipeline.world).2.2.calls =
        journal.calls ++ [.handle event (result.map fun _ => ())] ∧
      Works pipeline db (result.toOption.getD db) allowed journal
        (journal.work (Bench.intake handle) member pipeline.world) := by
  rcases ha : handle event (member.bench pipeline.world) with ⟨answer, last⟩
  rw [ha] at ht
  obtain ⟨hanswer, hstorage, htask⟩ := ht
  obtain rfl : answer = result.map fun _ => () := hanswer
  obtain ⟨notice, hadvance⟩ := advance_holding member.worker.pending hd hh ha
  simp only [Journal.work, hstage, hadvance, Stage.outcome?]
  refine ⟨rfl, ?_⟩
  exact {
    member := by
      refine hm.of_task ⟨htask.kind, htask.topic, htask.failures, htask.messages⟩ ?_ _
      intro other hother
      exact hm.inHand other (by rw [hstage]; exact hother)
    storage := ⟨mode, ceiling, hstorage⟩
    messages := htask.messages
    emitted := rfl
    calls := ⟨_, rfl⟩
    sound := by
      refine hj.add (fun other result hc => ?_) (fun entry he => ?_)
      · obtain ⟨rfl, -⟩ := Consumer.Call.handle.inj (List.mem_singleton.mp hc)
        exact hevent
      · rw [← Option.some.inj he]
        exact ho }

/-- A salary consumer opens a salary, or finds that it is open. -/
private theorem Sound.works_salary (h : pipeline.Sound db) (hm : pipeline.Employed db member)
    (hk : member.worker.kind = .salary) (hd : Database.Storable pipeline.world.clock.date) :
    ∃ salaries, Works pipeline db { db with salaries } salaryAllows pipeline.employees
      (pipeline.employees.work Bench.salaryIntake member pipeline.world) := by
  by_cases hstage : ∃ message, member.stage = .holding message
  · obtain ⟨message, hstage⟩ := hstage
    obtain ⟨mode, ceiling, hstorage⟩ : ∃ mode ceiling,
      (member.bench pipeline.world).world.storage = .database db mode ceiling := h.storage
    obtain ⟨htopic, payload, hpayload, htells⟩ := hm.inHand message (by rw [hstage]; rfl)
    obtain ⟨event, hevent, hdecode, hhandled, hemployed⟩ :=
      htells.employee.decode? hpayload (by rw [htopic, hk]; rfl)
    have hd : Database.Storable (member.bench pipeline.world).world.clock.date := hd
    have htakes := Bench.takes_salary hstorage hm.failures event
    rcases Database.createSalary_cases (member.bench pipeline.world).world.clock event.companyId hd
      hemployed with ⟨salaries, hresult⟩ | hresult <;> rw [hresult] at htakes
    · exact ⟨salaries, (works_holding hm h.employees hevent hstage hdecode hhandled htakes
        (.inl rfl)).2⟩
    · exact ⟨db.salaries, (works_holding hm h.employees hevent hstage hdecode hhandled htakes
        (.inr rfl)).2⟩
  · exact ⟨db.salaries, h.works_attending hm h.employees fun message hs => hstage ⟨message, hs⟩⟩

/-- A payslip consumer generates a payslip, which is counted. -/
private theorem Sound.works_payslip (h : pipeline.Sound db) (hm : pipeline.Employed db member)
    (hk : member.worker.kind = .payslip)
    (hg : ∀ payrollId, (pipeline.generations payrollId : Int) < Database.maxInteger) :
    ∃ payslips, Works pipeline db { db with payslips } payslipAllows pipeline.payslips
        (pipeline.payslips.work Bench.payslipIntake member pipeline.world) ∧
      Counted (pipeline.payslips.work Bench.payslipIntake member pipeline.world).2.2.calls
        payslips := by
  by_cases hstage : ∃ message, member.stage = .holding message
  · obtain ⟨message, hstage⟩ := hstage
    obtain ⟨mode, ceiling, hstorage⟩ : ∃ mode ceiling,
      (member.bench pipeline.world).world.storage = .database db mode ceiling := h.storage
    obtain ⟨htopic, payload, hpayload, htells⟩ := hm.inHand message (by rw [hstage]; rfl)
    obtain ⟨event, hevent, hdecode, hhandled, howns⟩ :=
      htells.payslip.decode? hpayload (by rw [htopic, hk]; rfl)
    have htakes := Bench.takes_payslip hstorage hm.failures event
    have hcounted : ∀ slip ∈ db.payslips, slip.payrollId = event.payrollId →
        slip.revision < Database.maxInteger := by
      intro slip hslip hid
      have hle := h.revisions.revisions slip hslip
      rw [hid] at hle
      exact Int.lt_of_le_of_lt hle (hg event.payrollId)
    obtain ⟨payroll, payslips, hfound, hgenerates, hresult⟩ := Database.generatePayslip_unused
      (member.bench pipeline.world).world.clock howns hcounted h.revisions.apart
    rw [hresult] at htakes
    obtain ⟨hcalls, hworks⟩ := works_holding hm h.payslips hevent hstage hdecode hhandled htakes
      rfl
    exact ⟨payslips, hworks,
      hcalls ▸ h.revisions.generated hgenerates (Database.of_payroll? hfound).2.1⟩
  · have hworks : Works pipeline db db payslipAllows pipeline.payslips
        (pipeline.payslips.work Bench.payslipIntake member pipeline.world) :=
      h.works_attending hm h.payslips fun message hs => hstage ⟨message, hs⟩
    obtain ⟨calls, hcalls⟩ := hworks.calls
    exact ⟨db.payslips, hworks, hcalls ▸ h.revisions.append calls⟩

/-- What a call of a consumer does to the effects, to its journal and to itself is sound. -/
private theorem Sound.worked (h : pipeline.Sound db) (index : Nat) {member' : Member}
    (hm : pipeline.Employed db member') {world : World} {salaries : List Salary}
    {slips : List Payslip}
    (hs : ∃ mode ceiling,
      world.storage = .database { db with salaries, payslips := slips } mode ceiling)
    (hb : world.broker.messages = pipeline.world.broker.messages)
    {employees : Journal EmployeeCreated} (he : employees.emitted = pipeline.employees.emitted)
    (hsalaries : employees.Sound salaryAllows) {payslips : Journal PayslipRequested}
    (hp : payslips.emitted = pipeline.payslips.emitted) (hslips : payslips.Sound payslipAllows)
    (hr : Counted payslips.calls slips) :
    Sound ⟨world, pipeline.senders, pipeline.members.set index member', employees, payslips⟩
      { db with salaries, payslips := slips } := by
  refine h.extend (.of_eq he hp rfl rfl) hs (fun _ hm => .inl (.of_mem hm)) (fun _ => .inl)
    (fun _ hm => .inl (hb ▸ hm)) (fun other ho => ?_) hr hsalaries hslips
  refine (List.mem_or_eq_of_mem_set ho).imp_right ?_
  rintro rfl
  exact hm

/-- A call of a consumer keeps everything consumable. -/
theorem Sound.consume (h : pipeline.Sound db) (hd : Database.Storable pipeline.world.clock.date)
    (hg : ∀ payrollId, (pipeline.generations payrollId : Int) < Database.maxInteger)
    (index : Nat) : ∃ db', (pipeline.consume index).Sound db' := by
  unfold Pipeline.consume
  cases hmember : pipeline.members[index]? with
  | none => exact ⟨db, h⟩
  | some member =>
    have hm := h.members member (List.mem_of_getElem? hmember)
    cases hk : member.worker.kind with
    | salary =>
      obtain ⟨salaries, hworks⟩ := h.works_salary hm hk hd
      simp only [hk]
      exact ⟨_, h.worked index hworks.member hworks.storage hworks.messages hworks.emitted
        hworks.sound rfl h.payslips h.revisions⟩
    | payslip =>
      obtain ⟨slips, hworks, hcounted⟩ := h.works_payslip hm hk hg
      simp only [hk]
      exact ⟨_, h.worked index hworks.member hworks.storage hworks.messages rfl h.employees
        hworks.emitted hworks.sound hcounted⟩

end Consuming

section Reaching

/-- A pipeline that starts with empty tables is sound. -/
private theorem sound_start {world : World} {senders : List Publisher.Sender} {mode : ClaimMode}
    {ceiling : Option Int} (hw : world.storage = .database .empty mode ceiling)
    (hb : world.broker.messages = []) (hs : ∀ sender ∈ senders, sender.stage = .idle) :
    Sound ⟨world, senders, [], .empty, .empty⟩ .empty where
  storage := ⟨mode, ceiling, hw⟩
  rows := by simp [Database.empty]
  senders sender hm row hr := by
    rw [hs sender hm] at hr
    cases hr
  messages := by simp [hb]
  members := by simp
  revisions := ⟨by simp [Database.empty], by simp [Database.empty]⟩
  employees := ⟨by simp [Journal.empty], by simp [Journal.empty]⟩
  payslips := ⟨by simp [Journal.empty], by simp [Journal.empty]⟩

/-- Other consumers that can work as well. -/
private theorem Sound.withMembers (h : pipeline.Sound db) {members : List Member}
    (hm : ∀ member ∈ members, member ∈ pipeline.members ∨ pipeline.Employed db member) :
    Sound { pipeline with members } db :=
  h.extend (.of_eq rfl rfl rfl rfl) h.storage (fun _ hm => .inl (.of_mem hm)) (fun _ => .inl)
    (fun _ => .inl) hm h.revisions h.employees h.payslips

/-- A step keeps everything consumable. -/
theorem Sound.step (h : pipeline.Sound db) (hs : pipeline.Step pipeline') :
    ∃ db', pipeline'.Sound db' := by
  cases hs with
  | request context hnow request => exact h.request hnow request
  | publish index => exact h.publish index
  | consume index hd hg => exact h.consume hd hg index
  | subscribe worker group hsource hpending hfailures =>
    refine ⟨db, h.withMembers fun other hm => ?_⟩
    refine (List.mem_append.mp hm).imp_right fun hm => ?_
    rw [List.mem_singleton.mp hm]
    exact ⟨hfailures, by rw [hsource]; rfl, by simp [Stage.message?]⟩
  | disturb index member hmember fetchFailures commitFailures seekFailures =>
    refine ⟨db, h.withMembers fun other hm => ?_⟩
    refine (List.mem_or_eq_of_mem_set hm).imp_right ?_
    rintro rfl
    obtain ⟨hfailures, htopic, hinHand⟩ := h.members member (List.mem_of_getElem? hmember)
    exact ⟨hfailures, htopic, hinHand⟩
  | change world hstorage hmessages =>
    exact ⟨db, h.extend (.of_eq rfl rfl rfl rfl) (hstorage ▸ h.storage)
      (fun _ hm => .inl (.of_mem hm)) (fun _ => .inl) (fun _ hm => .inl (hmessages ▸ hm))
      (fun _ => .inl) h.revisions h.employees h.payslips⟩

/-- In every pipeline that is reached, everything can be consumed. -/
theorem Reachable.sound (h : Reachable pipeline) : ∃ db, pipeline.Sound db := by
  induction h with
  | start world senders mode ceiling hw hb hs => exact ⟨.empty, sound_start hw hb hs⟩
  | step _ hs ih =>
    obtain ⟨db, hsound⟩ := ih
    exact hsound.step hs

/-- Whatever happens in a pipeline with its database within reach, the handlers of both kinds are
called with events that requests emitted and with no other. No message is undecodable, none is
skipped and none is retried: a salary is opened or is there already, and a payslip is generated. -/
theorem Reachable.every_event_consumed (h : Reachable pipeline) :
    (∀ entry ∈ pipeline.employees.outcomes, entry.2 = .committed ∨ entry.2 = .duplicate) ∧
      (∀ entry ∈ pipeline.payslips.outcomes, entry.2 = .committed) ∧
      (∀ event result, .handle event result ∈ pipeline.employees.calls →
        event ∈ pipeline.employees.emitted) ∧
      ∀ event result, .handle event result ∈ pipeline.payslips.calls →
        event ∈ pipeline.payslips.emitted := by
  obtain ⟨db, hsound⟩ := h.sound
  exact ⟨hsound.employees.outcomes, hsound.payslips.outcomes, hsound.employees.handled,
    hsound.payslips.handled⟩

end Reaching

section FirstDay

open HrPipeline.Api

/-- A request with a number of its own, on a working day. -/
def numbered (number : Nat) : Context :=
  ⟨workday.now, workday.databaseNow, Uuid.reserved (2 * number), Uuid.reserved (2 * number + 1)⟩

/-- The request for an employee of a company. -/
def hireRequest : Request :=
  { written CreateEmployee.shape (Uuid.reserved 7, "A", "B", "@", ()) with target := "/employees" }

/-- The request for a payroll of that company. -/
def payrollRequest : Request :=
  { written CreatePayroll.shape (Uuid.reserved 7, ⟨0⟩, ⟨30⟩, ()) with target := "/payrolls" }

/-- The request for the payslip of that payroll. -/
def payslipRequest : Request :=
  { written RequestPayslip.shape payslipOfSeven with
    target := "/payrolls/" ++ (numbered 1).subject.text ++ "/payslips" }

/-- A consumer of a kind that reads from the beginning. -/
def newcomer (kind : ConsumerKind) : Worker :=
  .new kind ⟨kind.defaultGroup, kind.topic, 50⟩ ⟨kind.defaultGroup, kind.topic, 0⟩ 0 0 0 0

/-- A pipeline with one publisher, whose first record of an acceptance is going to fail. -/
def opening : Pipeline :=
  ⟨{ World.start workday.now workday.now (.database .empty .shared none) none with
      faults := { Faults.none with markSent := 1 } },
    [⟨none, 10, .idle⟩], [], .empty, .empty⟩

/-- The pipeline with a consumer of each kind. -/
def staffed : Pipeline :=
  { opening with members := [⟨newcomer .salary, .idle⟩, ⟨newcomer .payslip, .idle⟩] }

/-- After an employee was asked for, whose message was sent twice. -/
def hired : Pipeline := (Pipeline.publish 0)^[10] (staffed.request (numbered 0) hireRequest)

/-- After a payslip was asked for, whose message was sent once. -/
def promised : Pipeline :=
  (Pipeline.publish 0)^[2]
    ((hired.request (numbered 1) payrollRequest).request (numbered 2) payslipRequest)

/-- After the salary consumer has worked. -/
def salaried : Pipeline := (Pipeline.consume 0)^[8] promised

/-- After the payslip consumer has worked. -/
def paid : Pipeline := (Pipeline.consume 1)^[3] salaried

/-- The database can store the day, and few payslips were generated. -/
def WithinLimits (pipeline : Pipeline) : Prop :=
  Database.Storable pipeline.world.clock.date ∧
    (pipeline.payslips.calls.length : Int) < Database.maxInteger

instance (pipeline : Pipeline) : Decidable pipeline.WithinLimits :=
  inferInstanceAs (Decidable (_ ∧ _))

private theorem Reachable.publish (h : Reachable pipeline) (index times : Nat) :
    Reachable ((Pipeline.publish index)^[times] pipeline) := by
  induction times with
  | zero => exact h
  | succ times ih =>
    rw [Function.iterate_succ_apply']
    exact ih.step (.publish index)

private theorem Reachable.consume (h : Reachable pipeline) (index times : Nat)
    (hq : ∀ k < times, ((Pipeline.consume index)^[k] pipeline).WithinLimits) :
    Reachable ((Pipeline.consume index)^[times] pipeline) := by
  induction times with
  | zero => exact h
  | succ times ih =>
    rw [Function.iterate_succ_apply']
    obtain ⟨hd, hl⟩ := hq times (Nat.lt_succ_self times)
    refine (ih fun k hk => hq k (Nat.lt_succ_of_lt hk)).step (.consume index hd fun payrollId => ?_)
    exact Int.lt_of_le_of_lt (Int.ofNat_le.mpr List.countP_le_length) hl

private theorem reachable_promised : Reachable promised := by
  have hnow : workday.now.Valid := ⟨by decide +kernel, by decide +kernel, by decide⟩
  have hopening : Reachable opening := .start _ _ .shared none rfl rfl (by simp)
  have hstaffed : Reachable staffed :=
    (hopening.step (.subscribe (newcomer .salary) _ rfl rfl rfl)).step
      (.subscribe (newcomer .payslip) _ rfl rfl rfl)
  have hasked : Reachable (staffed.request (numbered 0) hireRequest) :=
    hstaffed.step (.request (numbered 0) hnow hireRequest)
  have hhired : Reachable hired := hasked.publish 0 10
  have hpayroll : Reachable (hired.request (numbered 1) payrollRequest) :=
    hhired.step (.request (numbered 1) hnow payrollRequest)
  have hpayslip : Reachable
      ((hired.request (numbered 1) payrollRequest).request (numbered 2) payslipRequest) :=
    hpayroll.step (.request (numbered 2) hnow payslipRequest)
  exact hpayslip.publish 0 2

private theorem paid_outcomes :
    (∀ k < 8, ((Pipeline.consume 0)^[k] promised).WithinLimits) ∧
      (∀ k < 3, ((Pipeline.consume 1)^[k] salaried).WithinLimits) ∧
      paid.employees.outcomes.map (·.2) = [.committed, .duplicate] ∧
      paid.payslips.outcomes.map (·.2) = [.committed] := by
  decide +kernel

/-- On the first day, an event that is sent twice is applied and then known, and a payslip that is
asked for is generated. -/
theorem paid_every_event_consumed :
    Reachable paid ∧ paid.employees.outcomes.map (·.2) = [.committed, .duplicate] ∧
      paid.payslips.outcomes.map (·.2) = [.committed] ∧
      ∀ event result, .handle event result ∈ paid.payslips.calls →
        event ∈ paid.payslips.emitted := by
  obtain ⟨hsalary, hpayslip, hsalaries, hpayslips⟩ := paid_outcomes
  have hpaid : Reachable paid := (reachable_promised.consume 0 8 hsalary).consume 1 3 hpayslip
  exact ⟨hpaid, hsalaries, hpayslips, hpaid.every_event_consumed.2.2.2⟩

end FirstDay

end Pipeline
end Scenario
end HrPipeline
