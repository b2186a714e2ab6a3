import HrPipeline.Proofs.Scenario.Outcomes

/-!
# Companies of salaries

A salary takes its company from the event that opens it, while the database looks only at its
employee. So the salaries of a database stay those of the companies of their employees exactly as
long as no event opens one that names another company than its employee's. The payslip consumer
compares the companies; the salary consumer takes the event's word.
-/

namespace HrPipeline

open HrPipeline.Broker HrPipeline.Calendar HrPipeline.Consumer HrPipeline.Database
open HrPipeline.Scenario

namespace Database

/-- Every salary is one of the company of its employee. -/
def Tenanted (db : Database) : Prop :=
  ∀ s ∈ db.salaries, ∀ employee ∈ db.employees,
    employee.id = s.employeeId → s.companyId = employee.companyId

instance (db : Database) : Decidable db.Tenanted :=
  inferInstanceAs (Decidable (∀ _ ∈ _, ∀ _ ∈ _, _))

/-- An event names the company of its employee. -/
def NamesCompany (db : Database) (event : EmployeeCreated) : Prop :=
  ∀ employee ∈ db.employees, employee.id = event.employeeId → event.companyId = employee.companyId

variable {db db' : Database} {now : Instant} {date : Date} {event : EmployeeCreated}

/-- One salary more. -/
theorem tenanted_iff_of_createSalary
    (h : db.createSalary now event.companyId event.employeeId ⟨0, 0⟩ date = .ok db') :
    db'.Tenanted ↔ db.Tenanted ∧ db.NamesCompany event := by
  obtain ⟨-, rfl⟩ := of_createSalary h
  constructor
  · intro ht
    refine ⟨fun s hs => ht s (List.mem_append_left _ hs), ?_⟩
    exact ht (openedSalary now event.companyId event.employeeId date)
      (List.mem_append_right _ (List.mem_singleton_self _))
  · rintro ⟨ht, hn⟩ s hs
    rcases List.mem_append.mp hs with hs | hs
    · exact ht s hs
    · rw [List.mem_singleton.mp hs]
      exact hn

end Database

namespace Scenario.Bench

/-- A message with the time at which it is processed. -/
structure Arrival where
  now : Instant
  message : Inbound
deriving DecidableEq

/-- The message is processed at its time. -/
def processAt (arrival : Arrival) (bench : Bench) : Outcome × Bench :=
  process arrival.message { bench with world := { bench.world with clock := arrival.now } }

/-- The consumer after some messages. -/
def processAll (arrivals : List Arrival) (bench : Bench) : Bench :=
  arrivals.foldl (fun bench arrival => (bench.processAt arrival).2) bench

/-- A salary consumer on a database within reach. -/
structure OpensSalaries (db : Database) (mode : ClaimMode) (maxAttempts : Option Int)
    (bench : Bench) : Prop where
  kind : bench.worker.kind = .salary
  storage : bench.world.storage = .database db mode maxAttempts
  failures : bench.worker.failures = 0

/-- The messages that open a salary name the companies of their employees. -/
def CompaniesMatch (db : Database) (arrivals : List Arrival) (bench : Bench) : Prop :=
  ∀ before arrival later, arrivals = before ++ arrival :: later →
    ∀ event, decode? EmployeeCreated arrival.message = some event →
      ((bench.processAll before).processAt arrival).1 = .committed → db.NamesCompany event

variable {bench : Bench} {db : Database} {mode : ClaimMode} {maxAttempts : Option Int}
  {arrivals : List Arrival}

/-- What one message does to the salaries. -/
theorem OpensSalaries.processAt (h : bench.OpensSalaries db mode maxAttempts) (arrival : Arrival) :
    ∃ db', (bench.processAt arrival).2.OpensSalaries db' mode maxAttempts ∧
      db'.employees = db.employees ∧
      (db'.Tenanted ↔ db.Tenanted ∧
        ∀ event, decode? EmployeeCreated arrival.message = some event →
          (bench.processAt arrival).1 = .committed → db.NamesCompany event) := by
  let moved : Bench := { bench with world := { bench.world with clock := arrival.now } }
  have hmoved : moved.OpensSalaries db mode maxAttempts := ⟨h.kind, h.storage, h.failures⟩
  obtain ⟨htask, db', hstorage, hcomes⟩ :=
    process_salary hmoved.kind hmoved.storage hmoved.failures arrival.message
  refine ⟨db', ⟨htask.kind.trans h.kind, hstorage, htask.failures.trans h.failures⟩, ?_⟩
  by_cases ho : (bench.processAt arrival).1 = .committed
  · obtain ⟨event, hd, hok⟩ := hcomes.applied ho
    refine ⟨by rw [(of_createSalary hok).2], ?_⟩
    rw [tenanted_iff_of_createSalary hok]
    simp [hd, ho]
  · obtain rfl := hcomes.eq_of_ne_committed ho
    simp [ho]

theorem companiesMatch_cons {arrival : Arrival} :
    bench.CompaniesMatch db (arrival :: arrivals) ↔
      (∀ event, decode? EmployeeCreated arrival.message = some event →
        (bench.processAt arrival).1 = .committed → db.NamesCompany event) ∧
      (bench.processAt arrival).2.CompaniesMatch db arrivals := by
  constructor
  · intro h
    refine ⟨h [] arrival arrivals rfl, fun before other later hsplit => ?_⟩
    exact h (arrival :: before) other later (by rw [hsplit]; rfl)
  · rintro ⟨hfirst, hrest⟩ before other later hsplit
    cases before with
    | nil =>
      obtain ⟨rfl, rfl⟩ := List.cons.inj hsplit
      exact hfirst
    | cons first before =>
      obtain ⟨rfl, rfl⟩ := List.cons.inj hsplit
      exact hrest before other later rfl

/-- Employees are not touched by a consumer. -/
theorem companiesMatch_congr {db' : Database} (h : db'.employees = db.employees) :
    bench.CompaniesMatch db' arrivals ↔ bench.CompaniesMatch db arrivals := by
  unfold CompaniesMatch NamesCompany
  rw [h]

/-- The salaries are in the end those of the companies of their employees if and only if they were
so and no message opened one that names another company than its employee's. -/
theorem OpensSalaries.processAll (h : bench.OpensSalaries db mode maxAttempts)
    (arrivals : List Arrival) :
    ∃ db', (bench.processAll arrivals).OpensSalaries db' mode maxAttempts ∧
      (db'.Tenanted ↔ db.Tenanted ∧ bench.CompaniesMatch db arrivals) := by
  induction arrivals generalizing bench db with
  | nil => exact ⟨db, h, by simp [CompaniesMatch]⟩
  | cons arrival arrivals ih =>
    obtain ⟨between, hbetween, hemployees, hfirst⟩ := h.processAt arrival
    obtain ⟨db', hlast, hrest⟩ := ih hbetween
    refine ⟨db', hlast, ?_⟩
    rw [hrest, hfirst, companiesMatch_cons, companiesMatch_congr hemployees, and_assoc]

/-- Salaries that are those of the companies of their employees stay so if and only if no message
opens one that names another company than its employee's. -/
theorem tenanted_iff_companiesMatch (h : bench.OpensSalaries db mode maxAttempts)
    (ht : db.Tenanted) (arrivals : List Arrival) :
    ∃ db', (bench.processAll arrivals).world.storage = .database db' mode maxAttempts ∧
      (db'.Tenanted ↔ bench.CompaniesMatch db arrivals) := by
  obtain ⟨db', hlast, htenanted⟩ := h.processAll arrivals
  exact ⟨db', hlast.storage, by rw [htenanted, and_iff_right ht]⟩

section Companies

/-- A message that names another company than its employee's. -/
def misfiled : Arrival :=
  ⟨beforeMidnight, ⟨employeeTopic, 0, 0, none, some (DomainEvent.encode
    (EmployeeCreated.new (.reserved 1) (.reserved 3) none beforeMidnight)), []⟩⟩

theorem opensSalaries_clerk : clerk.OpensSalaries registry .shared none := ⟨rfl, rfl, rfl⟩

theorem decode?_misfiled : decode? EmployeeCreated misfiled.message =
    some (.new (.reserved 1) (.reserved 3) none beforeMidnight) :=
  decode?_of_decode rfl (EmployeeCreated.decode_encode valid_beforeMidnight)

/-- It opens a salary all the same. -/
theorem misfiled_committed : (clerk.processAt misfiled).1 = .committed := by
  obtain ⟨-, opened, -, hcomes⟩ :=
    process_salary opensSalaries_clerk.kind opensSalaries_clerk.storage
      opensSalaries_clerk.failures misfiled.message
  have hdecided := hcomes.decided
    (createSalary_replies consistent_registry (by decide) clerk.world.clock)
  refine (hdecided.handled _ decode?_misfiled rfl).1.mpr
    ⟨⟨_, List.mem_singleton_self _, rfl⟩, ?_⟩
  simp [Pays, registry, Database.empty]

/-- Messages that name the company of the employee keep the salaries there. -/
theorem hiring_tenanted :
    ∃ db', (clerk.processAll [⟨beforeMidnight, hiring⟩, ⟨afterMidnight, hiring⟩]).world.storage =
      .database db' .shared none ∧ db'.Tenanted := by
  obtain ⟨db', hstorage, hiff⟩ := tenanted_iff_companiesMatch opensSalaries_clerk
    (by decide) [⟨beforeMidnight, hiring⟩, ⟨afterMidnight, hiring⟩]
  refine ⟨db', hstorage, hiff.mpr fun before arrival later hsplit event hd _ => ?_⟩
  have hmem : arrival ∈ [⟨beforeMidnight, hiring⟩, ⟨afterMidnight, hiring⟩] := by
    rw [hsplit]
    simp
  have hmessage : arrival.message = hiring := by
    rcases List.mem_pair.mp hmem with rfl | rfl <;> rfl
  rw [hmessage, decode?_hiring] at hd
  obtain rfl := Option.some.inj hd
  simp [NamesCompany, registry, hiredLate, EmployeeCreated.new]

/-- So it is not so that the salary consumer keeps the salaries in the companies of their
employees. -/
theorem not_always_tenanted :
    ¬ ∀ (bench : Bench) (db db' : Database) (mode : ClaimMode) (maxAttempts : Option Int)
        (arrivals : List Arrival), bench.OpensSalaries db mode maxAttempts → db.Tenanted →
      (bench.processAll arrivals).world.storage = .database db' mode maxAttempts →
        db'.Tenanted := by
  intro h
  obtain ⟨db', hlast, hiff⟩ := opensSalaries_clerk.processAll [misfiled]
  have htenanted := h clerk registry db' .shared none [misfiled] opensSalaries_clerk
    (by decide) hlast.storage
  have hnames := (hiff.mp htenanted).2 [] misfiled [] rfl _ decode?_misfiled misfiled_committed
  exact absurd (hnames _ (List.mem_singleton_self _) rfl) (by decide)

end Companies

end Scenario.Bench
end HrPipeline
