import HrPipeline.Proofs.Consumer.Group
import HrPipeline.Proofs.Database.Payslips
import HrPipeline.Proofs.Scenario.SalaryDeliveries

/-!
# Effects of a consumer on the database

Both handlers do what the tables say to their effect and leave everything else of the consumer's
task as it was; a salary is opened or there already, and a payslip is generated as long as its
revisions can be counted. All other calls of a consumer leave the storage alone.
-/

namespace HrPipeline

open HrPipeline.Broker HrPipeline.Calendar HrPipeline.Consumer HrPipeline.Scenario

namespace Database

/-- The employee of an event is in the table. -/
def Employs (db : Database) (event : EmployeeCreated) : Prop :=
  ∃ employee ∈ db.employees, employee.id = event.employeeId

/-- The payroll of an event is in the table, as one of the event's company. -/
def Owns (db : Database) (event : PayslipRequested) : Prop :=
  ∃ payroll ∈ db.payrolls, payroll.id = event.payrollId ∧ payroll.companyId = event.companyId

variable {db : Database} {companyId : Uuid}

/-- The salary of a known employee is opened, or there already. -/
theorem createSalary_cases (now : Instant) (companyId : Uuid) {employeeId : Uuid} {date : Date}
    (hd : Storable date) (he : ∃ e ∈ db.employees, e.id = employeeId) :
    (∃ salaries, db.createSalary now companyId employeeId ⟨0, 0⟩ date =
        .ok { db with salaries }) ∨
      db.createSalary now companyId employeeId ⟨0, 0⟩ date = .error (.duplicate salaryKey) := by
  by_cases h : ∃ s ∈ db.salaries, s.employeeId = employeeId ∧ s.effectiveDate = date
  · exact .inr (createSalary_again hd h)
  · exact .inl ⟨_, createSalary_first hd he h⟩

/-- The payslip of a payroll of the company is generated under an identifier that no payslip has, if
its revisions can be counted and no payroll has two payslips. -/
theorem generatePayslip_unused (now : Instant) {payrollId : Uuid}
    (hp : ∃ p ∈ db.payrolls, p.id = payrollId ∧ p.companyId = companyId)
    (hr : ∀ slip ∈ db.payslips, slip.payrollId = payrollId → slip.revision < maxInteger)
    (hn : (db.payslips.map (·.payrollId)).Nodup) :
    ∃ payroll payslips, db.payroll? companyId payrollId = some payroll ∧
      Generates (Uuid.unused (db.payslips.map (·.id))) payroll now db.payslips payslips ∧
      db.generatePayslip now (Uuid.unused (db.payslips.map (·.id))) companyId payrollId =
        .ok { db with payslips } := by
  obtain ⟨payroll, hfound⟩ := Option.isSome_iff_exists.mp
    ((db.payroll?_isSome_iff companyId payrollId).mpr hp)
  obtain ⟨payslips, hgenerates, hresult⟩ :=
    generatePayslip_generates hfound hr (unused_of_nodup hn) now
  exact ⟨payroll, payslips, hfound, hgenerates, hresult⟩

end Database

namespace Scenario.Bench

/-- A consumer keeps its kind, its topic and the effects that are to fail, and the messages of the
broker are the same. -/
structure SameTask (before after : Bench) : Prop where
  kind : after.worker.kind = before.worker.kind
  topic : after.worker.source.topic = before.worker.source.topic
  failures : after.worker.failures = before.worker.failures
  messages : after.world.broker.messages = before.world.broker.messages

theorem SameTask.trans {a b c : Bench} (hab : a.SameTask b) (hbc : b.SameTask c) :
    a.SameTask c where
  kind := hbc.kind.trans hab.kind
  topic := hbc.topic.trans hab.topic
  failures := hbc.failures.trans hab.failures
  messages := hbc.messages.trans hab.messages

/-- The storage is the same, too. -/
structure Quiet (before after : Bench) : Prop extends SameTask before after where
  storage : after.world.storage = before.world.storage

theorem Quiet.trans {a b c : Bench} (hab : a.Quiet b) (hbc : b.Quiet c) : a.Quiet c where
  toSameTask := hab.toSameTask.trans hbc.toSameTask
  storage := hbc.storage.trans hab.storage

theorem quiet_note (notice : Notice) (bench : Bench) : bench.Quiet (bench.note notice) :=
  ⟨⟨rfl, rfl, rfl, rfl⟩, rfl⟩

theorem quiet_rewind (message : Inbound) (bench : Bench) :
    bench.Quiet (bench.rewind message).2 := by
  unfold rewind
  simp only
  split <;> exact ⟨⟨rfl, rfl, rfl, rfl⟩, rfl⟩

theorem quiet_commit (message : Inbound) (bench : Bench) :
    bench.Quiet (bench.commit message).2 := by
  unfold commit
  simp only
  split <;> exact ⟨⟨rfl, rfl, rfl, rfl⟩, rfl⟩

/-- A fetch takes a message of the topic, if any. -/
theorem quiet_fetch (bench : Bench) :
    bench.Quiet bench.fetch.2 ∧ ∀ message, bench.fetch.1 = some (.ok message) →
      message ∈ bench.world.broker.topic bench.worker.source.topic := by
  unfold fetch
  simp only
  split
  · exact ⟨⟨⟨rfl, rfl, rfl, rfl⟩, rfl⟩, by simp⟩
  · split
    · next found moved hf =>
      obtain ⟨message, hm, he⟩ := Option.map_eq_some_iff.mp hf
      obtain ⟨rfl, rfl⟩ := Prod.mk.inj he
      refine ⟨⟨⟨rfl, rfl, rfl, rfl⟩, rfl⟩, fun other ho => ?_⟩
      obtain rfl := Except.ok.inj (Option.some.inj ho)
      unfold Source.next? at hm
      split at hm
      · exact List.mem_of_getElem? hm
      · cases hm
    · exact ⟨⟨⟨rfl, rfl, rfl, rfl⟩, rfl⟩, by simp⟩

/-- A handler answers as the tables say, whose result it keeps. -/
structure Takes (bench : Bench) (db : Database) (mode : ClaimMode) (maxAttempts : Option Int)
    (result : Except EffectError Database) (answered : Except EffectError Unit × Bench) :
    Prop where
  answer : answered.1 = result.map fun _ => ()
  storage : answered.2.world.storage = .database (result.toOption.getD db) mode maxAttempts
  task : bench.SameTask answered.2

variable {bench : Bench} {db : Database} {mode : ClaimMode} {maxAttempts : Option Int}

/-- An effect on the tables that is not to fail. -/
private theorem takes_noted (hs : bench.world.storage = .database db mode maxAttempts)
    (hf : bench.worker.failures = 0) {effect : Bench → Except EffectError Unit × Bench}
    (stored : Notice) {result : Except EffectError Database}
    (he : effect bench = bench.onWorld fun world => world.keepTables stored result) (id : Uuid)
    (notice : Notice) :
    bench.Takes db mode maxAttempts result (noted domain notice (call id effect bench)) := by
  have hn : ¬ 0 < bench.worker.failures := by simp [hf]
  simp only [call, if_neg hn, he]
  cases result with
  | ok db' =>
    refine ⟨rfl, ?_, rfl, rfl, rfl, rfl⟩
    show bench.world.storage.withTables db' = _
    rw [hs]
    rfl
  | error error => exact ⟨rfl, hs, rfl, rfl, rfl, rfl⟩

/-- A salary is opened as the tables say. -/
theorem takes_salary (hs : bench.world.storage = .database db mode maxAttempts)
    (hf : bench.worker.failures = 0) (event : EmployeeCreated) :
    bench.Takes db mode maxAttempts
      (db.createSalary bench.world.clock event.companyId event.employeeId ⟨0, 0⟩
        bench.world.clock.date)
      (handleEmployeeCreated domain event bench) := by
  refine takes_noted hs hf .salaryInserted ?_ event.employeeId .salaryCreated
  simp only [createSalary, hs, onWorld, World.createSalary, Storage.tables?, domain]

/-- A payslip is generated as the tables say. -/
theorem takes_payslip (hs : bench.world.storage = .database db mode maxAttempts)
    (hf : bench.worker.failures = 0) (event : PayslipRequested) :
    bench.Takes db mode maxAttempts
      (db.generatePayslip bench.world.clock (Uuid.unused (db.payslips.map (·.id)))
        event.companyId event.payrollId)
      (handlePayslipRequested domain event bench) := by
  refine takes_noted hs hf .payslipStored ?_ event.payrollId .payslipGenerated
  simp only [generatePayslip, hs, onWorld, World.generatePayslip, Storage.tables?]

end Scenario.Bench

namespace Consumer

/-- What the result of a handler means for the message. -/
def Outcome.ofResult : Except EffectError Unit → Outcome
  | .ok () => .committed
  | .error (.duplicate _) => .duplicate
  | .error (.failed _) => .retry

variable {ε : Type} [DomainEvent ε] {handle : ε → Bench → Except EffectError Unit × Bench}
  {bench : Bench} {stage stage' : Stage} {pending pending' : Option Inbound}
  {after : Recorded Bench ε}

/-- A message whose payload denotes an event carries it. -/
theorem decode?_of_decode {message : Inbound} {payload : Bytes} {event : ε}
    (hp : message.payload = some payload) (hd : DomainEvent.decode payload = .ok event) :
    decode? ε message = some event := by
  cases payload with
  | nil => cases hd
  | cons byte rest =>
    unfold decode?
    simp only [hp, hd]
    rfl

/-- A call that applies no message. -/
structure Attends (bench : Bench) (stage' : Stage) (after : Recorded Bench ε) : Prop where
  quiet : bench.Quiet after.state
  calls : ∀ event result, Call.handle event result ∉ after.calls
  outcome : stage'.outcome? = none
  /-- A message that is new in hand is one of the topic. -/
  message : ∀ message, stage'.message? = some message →
    message ∈ bench.world.broker.topic bench.worker.source.topic

/-- A consumer without a message in hand applies none. -/
theorem attends_of_message? (hs : ∀ message, stage ≠ .holding message)
    (h : advance (Bench.intake handle).recorded stage pending ⟨bench, []⟩ =
      (stage', pending', after)) : Attends bench stage' after := by
  cases stage with
  | idle =>
    cases pending with
    | none =>
      obtain ⟨rfl, -, rfl⟩ := h
      exact ⟨⟨⟨rfl, rfl, rfl, rfl⟩, rfl⟩, by simp, rfl, by simp [Stage.message?]⟩
    | some message =>
      have hq := Bench.quiet_rewind message bench
      simp only [advance, settle, recorded_rewind, Recorded.after, Bench.intake] at h
      rcases hr : bench.rewind message with ⟨_ | _, moved⟩ <;>
        simp only [hr, recorded_note, Prod.mk.injEq] at h hq <;> obtain ⟨rfl, -, rfl⟩ := h
      · exact ⟨hq, by simp, rfl, by simp [Stage.message?]⟩
      · exact ⟨hq.trans (Bench.quiet_note _ _), by simp, rfl, by simp [Stage.message?]⟩
  | ready =>
    obtain ⟨hq, hm⟩ := Bench.quiet_fetch bench
    simp only [advance, recorded_fetch, Recorded.after, Bench.intake] at h
    rcases hf : bench.fetch with ⟨_ | _ | message, moved⟩ <;>
      simp only [hf, Prod.mk.injEq] at h hq hm <;> obtain ⟨rfl, -, rfl⟩ := h
    · exact ⟨hq, by simp, rfl, by simp [Stage.message?]⟩
    · exact ⟨hq, by simp, rfl, by simp [Stage.message?]⟩
    · exact ⟨hq, by simp, rfl, fun other ho => hm other (by rw [← Option.some.inj ho])⟩
  | holding message => exact absurd rfl (hs message)
  | closing message outcome =>
    simp only [advance, close, recorded_rewind, recorded_commit, Recorded.after,
      Bench.intake] at h
    split at h
    · have hq := Bench.quiet_rewind message bench
      rcases hr : bench.rewind message with ⟨_ | _, moved⟩ <;>
        simp only [hr, recorded_note, Prod.mk.injEq] at h hq <;> obtain ⟨rfl, -, rfl⟩ := h
      · exact ⟨hq.trans (Bench.quiet_note _ _), by simp, rfl, by simp [Stage.message?]⟩
      · exact ⟨hq, by simp, rfl, by simp [Stage.message?]⟩
    · have hq := Bench.quiet_commit message bench
      rcases hr : bench.commit message with ⟨_ | _, moved⟩ <;>
        simp only [hr, recorded_note, Prod.mk.injEq] at h hq <;> obtain ⟨rfl, -, rfl⟩ := h
      · exact ⟨hq.trans (Bench.quiet_note _ _), by simp, rfl, by simp [Stage.message?]⟩
      · exact ⟨hq, by simp, rfl, by simp [Stage.message?]⟩
  | finished receipt =>
    obtain ⟨rfl, -, rfl⟩ := h
    exact ⟨⟨⟨rfl, rfl, rfl, rfl⟩, rfl⟩, by simp, rfl, by simp [Stage.message?]⟩

/-- A consumer that has a message in hand applies the effect of its event. -/
theorem advance_holding (pending : Option Inbound) {message : Inbound} {event : ε}
    (hd : decode? ε message = some event)
    (hh : DomainEvent.isHandled event = true) {result : Except EffectError Unit} {last : Bench}
    (ha : handle event bench = (result, last)) :
    ∃ notice, advance (Bench.intake handle).recorded (.holding message) pending ⟨bench, []⟩ =
      (.closing message (.ofResult result), pending,
        ⟨last.note notice, [.handle event result]⟩) := by
  simp only [advance, apply, hd, if_pos hh, recorded_handle, Recorded.after, Bench.intake, ha]
  rcases result with (_ | _) | _ <;> exact ⟨_, rfl⟩

end Consumer
end HrPipeline
