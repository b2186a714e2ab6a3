import HrPipeline.Proofs.Consumer.Stages
import HrPipeline.Proofs.Event.RoundTrip
import HrPipeline.Proofs.Scenario.BenchEffects

/-!
# What an outcome tells

The outcome of a message tells what happened to the tables. A message that is no event of the
consumer's own changes nothing. For any other the outcome is that of its effect: it is applied, it
was there already, or what it refers to is missing, and only in the first case the tables change.
-/

namespace HrPipeline

open HrPipeline.Broker HrPipeline.Calendar HrPipeline.Consumer HrPipeline.Database
open HrPipeline.Scenario

namespace Consumer

/-- When an effect is applied, when it was there already, and when it fails. -/
structure Replies (result : Except EffectError Unit) (fresh repeated impossible : Prop) :
    Prop where
  ok : result = .ok () ↔ fresh
  duplicate : (∃ key, result = .error (.duplicate key)) ↔ repeated
  failed : (∃ failure, result = .error (.failed failure)) ↔ impossible

end Consumer

namespace Database

/-- What the database enforces between rows, as far as the consumers rely on it: salaries refer to
employees, and no payroll has two payslips. -/
structure Consistent (db : Database) : Prop where
  salaries : ∀ s ∈ db.salaries, ∃ e ∈ db.employees, e.id = s.employeeId
  payslips : (db.payslips.map (·.payrollId)).Nodup

/-- The employee of an event has a salary from a date on. -/
def Pays (db : Database) (event : EmployeeCreated) (date : Date) : Prop :=
  ∃ s ∈ db.salaries, s.employeeId = event.employeeId ∧ s.effectiveDate = date

variable {db : Database} {date : Date}

/-- A salary is opened for an employee that has none from the date on. -/
theorem createSalary_replies (h : db.Consistent) (hd : Storable date) (now : Instant)
    (event : EmployeeCreated) :
    Replies
      ((db.createSalary now event.companyId event.employeeId ⟨0, 0⟩ date).map fun _ => ())
      (db.Employs event ∧ ¬ db.Pays event date) (db.Pays event date) (¬ db.Employs event) := by
  by_cases hp : db.Pays event date
  · have he : db.Employs event := by
      obtain ⟨s, hs, hid, -⟩ := hp
      obtain ⟨employee, hm, he⟩ := h.salaries s hs
      exact ⟨employee, hm, he.trans hid⟩
    rw [createSalary_again hd hp]
    constructor <;> simp [Except.map, hp, he]
  · by_cases he : db.Employs event
    · rw [createSalary_first hd he hp]
      constructor <;> simp [Except.map, hp, he]
    · obtain ⟨failure, hfailed⟩ := createSalary_unknown hd he hp
      rw [hfailed]
      constructor <;> simp [Except.map, hp, he]

/-- A payslip is generated for a payroll of the company, however often that was done. -/
theorem generatePayslip_replies (h : db.Consistent)
    (hr : ∀ slip ∈ db.payslips, slip.revision < maxInteger) (now : Instant)
    (event : PayslipRequested) :
    Replies ((db.generatePayslip now (Uuid.unused (db.payslips.map (·.id))) event.companyId
        event.payrollId).map fun _ => ())
      (db.Owns event) False (¬ db.Owns event) := by
  by_cases hp : db.Owns event
  · obtain ⟨payroll, payslips, -, -, hok⟩ :=
      generatePayslip_unused now hp (fun slip hs _ => hr slip hs) h.payslips
    rw [hok]
    constructor <;> simp [Except.map, hp]
  · have hnone : db.payroll? event.companyId event.payrollId = none := by
      rw [← Option.not_isSome_iff_eq_none, payroll?_isSome_iff]
      exact hp
    obtain ⟨failure, hfailed⟩ := generatePayslip_unknown hnone now _
    rw [hfailed]
    constructor <;> simp [Except.map, hp]

/-- A salary is only opened for an employee that has none from the date on. -/
theorem of_createSalary {db' : Database} {now : Instant} {event : EmployeeCreated}
    (h : db.createSalary now event.companyId event.employeeId ⟨0, 0⟩ date = .ok db') :
    db.Employs event ∧ db' = { db with
      salaries := db.salaries ++ [openedSalary now event.companyId event.employeeId date] } := by
  by_cases hd : Storable date
  · by_cases hp : db.Pays event date
    · rw [createSalary_again hd hp] at h
      cases h
    · by_cases he : db.Employs event
      · rw [createSalary_first hd he hp] at h
        exact ⟨he, (Except.ok.inj h).symm⟩
      · obtain ⟨failure, hfailed⟩ := createSalary_unknown hd he hp
        rw [hfailed] at h
        cases h
  · rw [createSalary_unstorable hd] at h
    cases h

/-- What is left after a payslip was generated. -/
theorem of_generatePayslip {db' : Database} {now : Instant} {event : PayslipRequested}
    (hc : db.Consistent) (hr : ∀ slip ∈ db.payslips, slip.revision < maxInteger)
    (h : db.generatePayslip now (Uuid.unused (db.payslips.map (·.id))) event.companyId
      event.payrollId = .ok db') :
    ∃ payroll payslips, db.payroll? event.companyId event.payrollId = some payroll ∧
      Generates (Uuid.unused (db.payslips.map (·.id))) payroll now db.payslips payslips ∧
      db' = { db with payslips } := by
  have howns := (generatePayslip_replies hc hr now event).ok.mp (by rw [h]; rfl)
  obtain ⟨payroll, payslips, hp, hgenerates, hok⟩ :=
    generatePayslip_unused now howns (fun slip hs _ => hr slip hs) hc.payslips
  rw [hok] at h
  exact ⟨payroll, payslips, hp, hgenerates, (Except.ok.inj h).symm⟩

namespace Consistent

theorem opened (h : db.Consistent) {event : EmployeeCreated} (he : db.Employs event)
    (now : Instant) (date : Date) :
    ({ db with salaries := db.salaries ++
      [openedSalary now event.companyId event.employeeId date] } : Database).Consistent where
  salaries s hm := by
    rcases List.mem_append.mp hm with hm | hm
    · exact h.salaries s hm
    · rw [List.mem_singleton.mp hm]
      exact he
  payslips := h.payslips

theorem generated (h : db.Consistent) {id : Uuid} {payroll : Payroll} {now : Instant}
    {payslips : List Payslip} (hg : Generates id payroll now db.payslips payslips) :
    ({ db with payslips } : Database).Consistent where
  salaries := h.salaries
  payslips := hg.nodup h.payslips

end Consistent
end Database

namespace Consumer

variable {ε : Type} [DomainEvent ε] {message : Inbound} {outcome : Outcome}

/-- What the outcome of a message tells of it. -/
structure Decided (ε : Type) [DomainEvent ε] (message : Inbound)
    (fresh repeated impossible : ε → Prop) (outcome : Outcome) : Prop where
  poison : outcome = .poison ↔ message.payload = none ∨ message.payload = some [] ∨
    ∃ payload, message.payload = some payload ∧ ∀ event : ε, DomainEvent.decode payload ≠ .ok event
  skipped : outcome = .skipped ↔ ∃ event, decode? ε message = some event ∧
    DomainEvent.recordedType event ≠ DomainEvent.eventType ε
  handled : ∀ event, decode? ε message = some event →
    DomainEvent.recordedType event = DomainEvent.eventType ε →
      (outcome = .committed ↔ fresh event) ∧ (outcome = .duplicate ↔ repeated event) ∧
        (outcome = .retry ↔ impossible event)

/-- The messages that carry no event. -/
theorem decode?_eq_none_iff :
    decode? ε message = none ↔ message.payload = none ∨ message.payload = some [] ∨
      ∃ payload, message.payload = some payload ∧
        ∀ event : ε, DomainEvent.decode payload ≠ .ok event := by
  unfold decode?
  rcases hp : message.payload with _ | _ | ⟨b, bs⟩
  · simp
  · simp
  · cases hd : (DomainEvent.decode (b :: bs) : Except Json.Refusal ε) <;>
      simp [hd, Except.toOption]

variable {handle : ε → Bench → Except EffectError Unit × Bench} {bench : Bench} {db : Database}
  {mode : ClaimMode} {maxAttempts : Option Int} {result : ε → Except EffectError Database}

omit [DomainEvent ε] in
/-- A message is rewound or committed without the storage. -/
private theorem quiet_close (handle : ε → Bench → Except EffectError Unit × Bench)
    (message : Inbound) (outcome : Outcome) (pending : Option Inbound) (bench : Bench) :
    bench.Quiet (close (Bench.intake handle) message outcome pending bench).2 := by
  simp only [close, Bench.intake]
  split
  · have hq := Bench.quiet_rewind message bench
    rcases hr : bench.rewind message with ⟨_ | _, moved⟩ <;> simp only [hr] at hq ⊢
    · exact hq.trans (Bench.quiet_note _ _)
    · exact hq
  · have hq := Bench.quiet_commit message bench
    rcases hr : bench.commit message with ⟨_ | _, moved⟩ <;> simp only [hr] at hq ⊢
    · exact hq.trans (Bench.quiet_note _ _)
    · exact hq

/-- The event of the consumer's own in a message is handed to the handler. -/
private theorem apply_handled (handle : ε → Bench → Except EffectError Unit × Bench) {event : ε}
    (hd : decode? ε message = some event) (hh : DomainEvent.isHandled event = true)
    (bench : Bench) :
    (apply (Bench.intake handle) message bench).1 = .ofResult (handle event bench).1 ∧
      (handle event bench).2.Quiet (apply (Bench.intake handle) message bench).2 := by
  simp only [apply, hd, if_pos hh, Bench.intake]
  rcases handle event bench with ⟨(_ | _) | _, moved⟩ <;> exact ⟨rfl, Bench.quiet_note _ _⟩

/-- What can come of a message: it is not for the consumer, or its effect does to the tables what
`result` says. -/
inductive Comes (db : Database) (message : Inbound) (result : ε → Except EffectError Database) :
    Outcome → Database → Prop where
  | poison (hd : decode? ε message = none) : Comes db message result .poison db
  | skipped {event : ε} (hd : decode? ε message = some event)
      (hh : DomainEvent.recordedType event ≠ DomainEvent.eventType ε) :
    Comes db message result .skipped db
  | handled {event : ε} (hd : decode? ε message = some event)
      (hh : DomainEvent.recordedType event = DomainEvent.eventType ε) :
    Comes db message result (.ofResult ((result event).map fun _ => ()))
      ((result event).toOption.getD db)

/-- What comes of a message that is processed. -/
theorem process_comes (hs : bench.world.storage = .database db mode maxAttempts)
    (ht : ∀ event, bench.Takes db mode maxAttempts (result event) (handle event bench))
    (message : Inbound) (pending : Option Inbound) :
    let processed := process (Bench.intake handle) message pending bench
    bench.SameTask processed.2.2 ∧
      ∃ db', processed.2.2.world.storage = .database db' mode maxAttempts ∧
        Comes db message result processed.1 db' := by
  simp only [process_eq_close]
  have hclose := quiet_close handle message (apply (Bench.intake handle) message bench).1 pending
    (apply (Bench.intake handle) message bench).2
  rw [hclose.storage]
  cases hd : decode? ε message with
  | none =>
    simp only [apply, hd] at hclose ⊢
    exact ⟨((Bench.quiet_note _ _).trans hclose).toSameTask, db, hs, .poison hd⟩
  | some event =>
    by_cases hh : DomainEvent.recordedType event = DomainEvent.eventType ε
    · obtain ⟨houtcome, hquiet⟩ := apply_handled handle hd (decide_eq_true hh) bench
      refine ⟨(ht event).task.trans (hquiet.trans hclose).toSameTask, ?_⟩
      rw [houtcome, hquiet.storage, (ht event).answer, (ht event).storage]
      exact ⟨_, rfl, .handled hd hh⟩
    · have hother : DomainEvent.isHandled event = false := decide_eq_false hh
      simp only [apply, hd, hother] at hclose ⊢
      exact ⟨((Bench.quiet_note _ _).trans hclose).toSameTask, db, hs, .skipped hd hh⟩

theorem Outcome.ofResult_eq_committed_iff {result : Except EffectError Unit} :
    Outcome.ofResult result = .committed ↔ result = .ok () := by
  rcases result with (_ | _) | _ <;> simp [Outcome.ofResult]

theorem Outcome.ofResult_eq_duplicate_iff {result : Except EffectError Unit} :
    Outcome.ofResult result = .duplicate ↔ ∃ key, result = .error (.duplicate key) := by
  rcases result with (_ | _) | _ <;> simp [Outcome.ofResult]

theorem Outcome.ofResult_eq_retry_iff {result : Except EffectError Unit} :
    Outcome.ofResult result = .retry ↔ ∃ failure, result = .error (.failed failure) := by
  rcases result with (_ | _) | _ <;> simp [Outcome.ofResult]

namespace Comes

variable {db' : Database}

/-- The tables change only if the effect was applied. -/
theorem eq_of_ne_committed (h : Comes db message result outcome db')
    (ho : outcome ≠ .committed) : db' = db := by
  cases h with
  | poison | skipped => rfl
  | @handled event =>
    cases hr : result event with
    | error error => rfl
    | ok reached => exact absurd (by rw [hr]; rfl) ho

/-- If it was, they are as the effect of the event leaves them. -/
theorem applied (h : Comes db message result outcome db') (ho : outcome = .committed) :
    ∃ event, decode? ε message = some event ∧ result event = .ok db' := by
  cases h with
  | poison | skipped => cases ho
  | @handled event hd =>
    refine ⟨event, hd, ?_⟩
    cases hr : result event with
    | error error =>
      rw [hr, Outcome.ofResult_eq_committed_iff] at ho
      cases ho
    | ok reached => rfl

theorem result_eq {event : ε} (h : Comes db message result outcome db')
    (hd : decode? ε message = some event) (ho : outcome = .committed) : result event = .ok db' := by
  obtain ⟨applied, happlied, hok⟩ := h.applied ho
  obtain rfl := Option.some.inj (hd.symm.trans happlied)
  exact hok

/-- The tables stay consistent if every effect leaves them so. -/
theorem consistent (h : Comes db message result outcome db') (hc : db.Consistent)
    (hk : ∀ event reached, result event = .ok reached → reached.Consistent) : db'.Consistent := by
  by_cases ho : outcome = .committed
  · obtain ⟨event, -, hok⟩ := h.applied ho
    exact hk event db' hok
  · rw [h.eq_of_ne_committed ho]
    exact hc

/-- The outcome tells what the answer of the tables is. -/
theorem decided {fresh repeated impossible : ε → Prop}
    (h : Comes db message result outcome db')
    (ha : ∀ event, Replies ((result event).map fun _ => ()) (fresh event) (repeated event)
      (impossible event)) :
    Decided ε message fresh repeated impossible outcome := by
  cases h with
  | poison hd =>
    refine ⟨by simpa using decode?_eq_none_iff.mp hd, by simp [hd], by simp [hd]⟩
  | @skipped event hd hh =>
    have hsome : ¬ decode? ε message = none := by simp [hd]
    rw [decode?_eq_none_iff] at hsome
    refine ⟨by simpa using hsome, by simpa [hd] using hh, ?_⟩
    rintro other hd' hh'
    obtain rfl := Option.some.inj (hd.symm.trans hd')
    exact absurd hh' hh
  | @handled event hd hh =>
    have hsome : ¬ decode? ε message = none := by simp [hd]
    rw [decode?_eq_none_iff] at hsome
    have hne : Outcome.ofResult ((result event).map fun _ => ()) ≠ .poison ∧
        Outcome.ofResult ((result event).map fun _ => ()) ≠ .skipped := by
      rcases result event with (_ | _) | _ <;> exact ⟨nofun, nofun⟩
    refine ⟨by simpa [hne.1] using hsome, by simpa [hne.2, hd] using hh, ?_⟩
    rintro other hd' -
    obtain rfl := Option.some.inj (hd.symm.trans hd')
    exact ⟨Outcome.ofResult_eq_committed_iff.trans (ha event).ok,
      Outcome.ofResult_eq_duplicate_iff.trans (ha event).duplicate,
      Outcome.ofResult_eq_retry_iff.trans (ha event).failed⟩

end Comes
end Consumer

namespace Scenario.Bench

variable {bench : Bench} {db : Database} {mode : ClaimMode} {maxAttempts : Option Int}

/-- What comes of a message for the salary consumer. -/
theorem process_salary (hk : bench.worker.kind = .salary)
    (hs : bench.world.storage = .database db mode maxAttempts) (hf : bench.worker.failures = 0)
    (message : Inbound) :
    bench.SameTask (bench.process message).2 ∧
      ∃ db', (bench.process message).2.world.storage = .database db' mode maxAttempts ∧
        Comes db message (fun event : EmployeeCreated =>
          db.createSalary bench.world.clock event.companyId event.employeeId ⟨0, 0⟩
            bench.world.clock.date) (bench.process message).1 db' := by
  unfold process
  rw [hk]
  obtain ⟨htask, hcomes⟩ := process_comes hs (takes_salary hs hf) message bench.worker.pending
  exact ⟨⟨htask.kind, htask.topic, htask.failures, htask.messages⟩, hcomes⟩

/-- What comes of a message for the payslip consumer. -/
theorem process_payslip (hk : bench.worker.kind = .payslip)
    (hs : bench.world.storage = .database db mode maxAttempts) (hf : bench.worker.failures = 0)
    (message : Inbound) :
    bench.SameTask (bench.process message).2 ∧
      ∃ db', (bench.process message).2.world.storage = .database db' mode maxAttempts ∧
        Comes db message (fun event : PayslipRequested =>
          db.generatePayslip bench.world.clock (Uuid.unused (db.payslips.map (·.id)))
            event.companyId event.payrollId) (bench.process message).1 db' := by
  unfold process
  rw [hk]
  obtain ⟨htask, hcomes⟩ := process_comes hs (takes_payslip hs hf) message bench.worker.pending
  exact ⟨⟨htask.kind, htask.topic, htask.failures, htask.messages⟩, hcomes⟩

/-- The outcome of a message and the tables after it, for the salary consumer. A salary of zero is
opened from the current day on. -/
structure SalaryTold (message : Inbound) (now : Instant) (db : Database) (outcome : Outcome)
    (db' : Database) : Prop where
  decided : Decided EmployeeCreated message
    (fun event => db.Employs event ∧ ¬ db.Pays event now.date)
    (fun event => db.Pays event now.date) (fun event => ¬ db.Employs event) outcome
  opened : ∀ event : EmployeeCreated, decode? EmployeeCreated message = some event →
    outcome = .committed → db' = { db with
      salaries := db.salaries ++ [openedSalary now event.companyId event.employeeId now.date] }

/-- The outcome of a message and the tables after it, for the payslip consumer. There are no
duplicates: the payslip is the first of the payroll or takes the place of the one before. -/
structure PayslipTold (message : Inbound) (now : Instant) (db : Database) (outcome : Outcome)
    (db' : Database) : Prop where
  decided : Decided PayslipRequested message (fun event => db.Owns event) (fun _ => False)
    (fun event => ¬ db.Owns event) outcome
  generated : ∀ event : PayslipRequested, decode? PayslipRequested message = some event →
    outcome = .committed → ∃ payroll payslips,
      db.payroll? event.companyId event.payrollId = some payroll ∧
      Generates (Uuid.unused (db.payslips.map (·.id))) payroll now db.payslips payslips ∧
      db' = { db with payslips }

/-- A consumer on a consistent database within reach tells by the outcome of a message what happened
to the tables, which stay consistent. -/
theorem outcome_tells (hs : bench.world.storage = .database db mode maxAttempts)
    (hf : bench.worker.failures = 0) (hc : db.Consistent)
    (hd : Storable bench.world.clock.date)
    (hr : ∀ slip ∈ db.payslips, slip.revision < maxInteger) (message : Inbound) :
    ∃ db', (bench.process message).2.world.storage = .database db' mode maxAttempts ∧
      db'.Consistent ∧ ((bench.process message).1 ≠ .committed → db' = db) ∧
      match bench.worker.kind with
      | .salary => SalaryTold message bench.world.clock db (bench.process message).1 db'
      | .payslip => PayslipTold message bench.world.clock db (bench.process message).1 db' := by
  cases hk : bench.worker.kind with
  | salary =>
    obtain ⟨-, db', hstorage, hcomes⟩ := process_salary hk hs hf message
    refine ⟨db', hstorage, hcomes.consistent hc ?_, hcomes.eq_of_ne_committed,
      hcomes.decided (createSalary_replies hc hd bench.world.clock), ?_⟩
    · intro event reached hok
      obtain ⟨he, rfl⟩ := of_createSalary hok
      exact hc.opened he _ _
    · intro event hevent ho
      exact (of_createSalary (hcomes.result_eq hevent ho)).2
  | payslip =>
    obtain ⟨-, db', hstorage, hcomes⟩ := process_payslip hk hs hf message
    refine ⟨db', hstorage, hcomes.consistent hc ?_, hcomes.eq_of_ne_committed,
      hcomes.decided (generatePayslip_replies hc hr bench.world.clock), ?_⟩
    · intro event reached hok
      obtain ⟨payroll, payslips, -, hgenerates, rfl⟩ := of_generatePayslip hc hr hok
      exact hc.generated hgenerates
    · intro event hevent ho
      exact of_generatePayslip hc hr (hcomes.result_eq hevent ho)

section Clerks

theorem valid_beforeMidnight : beforeMidnight.Valid :=
  ⟨by decide +kernel, by decide +kernel, by decide⟩

/-- The message of a new employee, as it arrives first. -/
def hiring : Inbound :=
  ⟨employeeTopic, 0, 0, none, some (DomainEvent.encode hiredLate), []⟩

theorem decode?_hiring : decode? EmployeeCreated hiring = some hiredLate :=
  decode?_of_decode rfl (EmployeeCreated.decode_encode valid_beforeMidnight)

/-- A request for the payslip of a payroll that does not exist. -/
def strayRequest : Inbound :=
  ⟨payslipTopic, 0, 0, none, some (DomainEvent.encode
    (PayslipRequested.new (.reserved 7) (.reserved 2) (.reserved 8) beforeMidnight)), []⟩

/-- A payslip consumer on the same database. -/
def accountant : Bench :=
  { clerk with
    worker := .new .payslip ⟨"payslips", payslipTopic, 50⟩ ⟨"payslips", payslipTopic, 0⟩ 0 0 0 0 }

theorem consistent_registry : registry.Consistent :=
  ⟨by simp [registry, Database.empty], by simp [registry, Database.empty]⟩

/-- The salary of the new employee is opened, and the payslip is to be asked for again. -/
theorem clerks_outcomes :
    (clerk.process hiring).1 = .committed ∧ (accountant.process strayRequest).1 = .retry ∧
      (accountant.process strayRequest).2.world.storage = .database registry .shared none := by
  have hslips : ∀ slip ∈ registry.payslips, slip.revision < maxInteger := by
    simp [registry, Database.empty]
  have hclerk : clerk.world.storage = .database registry .shared none := rfl
  have haccountant : accountant.world.storage = .database registry .shared none := rfl
  obtain ⟨opened, -, -, -, hsalary⟩ :=
    outcome_tells hclerk rfl consistent_registry (by decide) hslips hiring
  obtain ⟨db', hstorage, -, hsame, hpayslip⟩ :=
    outcome_tells haccountant rfl consistent_registry (by decide) hslips strayRequest
  change SalaryTold _ _ _ _ _ at hsalary
  change PayslipTold _ _ _ _ _ at hpayslip
  have hasked : decode? PayslipRequested strayRequest = some _ :=
    decode?_of_decode rfl (PayslipRequested.decode_encode valid_beforeMidnight)
  have hcommitted := (hsalary.decided.handled hiredLate decode?_hiring rfl).1
  have hretry := (hpayslip.decided.handled _ hasked rfl).2.2.mpr
    (by simp [Owns, registry, Database.empty])
  refine ⟨hcommitted.mpr ⟨⟨_, List.mem_singleton_self _, rfl⟩, ?_⟩, hretry, ?_⟩
  · simp [Database.Pays, registry, Database.empty]
  · rw [hstorage, hsame (by rw [hretry]; decide)]

end Clerks

end Scenario.Bench
end HrPipeline
