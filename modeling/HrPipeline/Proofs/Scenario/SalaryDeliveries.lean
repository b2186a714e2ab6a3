import HrPipeline.Scenario.Consuming
import Mathlib.Data.List.Induction

/-!
# Repeated deliveries of a new employee

A salary is unique for its employee and its date, and the date is the day on which the event is
handled. So repeated deliveries of one event open a salary on each day on which one of them is
handled, and only a delivery on a day that had one before is a duplicate.
-/

namespace HrPipeline.Database

open HrPipeline.Calendar

variable {db : Database} {now : Instant} {companyId employeeId : Uuid} {date : Date}

/-- Whether the database can store a date. -/
def Storable (date : Date) : Prop := firstStoredDay.epochDay ≤ date.epochDay

instance (date : Date) : Decidable (Storable date) :=
  inferInstanceAs (Decidable (firstStoredDay.epochDay ≤ date.epochDay))

/-- The salary of zero that is opened for an employee. -/
def openedSalary (now : Instant) (companyId employeeId : Uuid) (date : Date) : Salary :=
  ⟨companyId, employeeId, ⟨0⟩, date, now.toMicros⟩

private theorem createSalary_zero (hd : Storable date) :
    db.createSalary now companyId employeeId ⟨0, 0⟩ date =
      (db.insertSalary ⟨companyId, employeeId, ⟨0⟩, date, now⟩).mapError
        fun error => .ofDatabase error salaryKey := by
  have hc : checkDate date = .ok () := by
    unfold checkDate
    rw [if_neg (Int.not_lt.mpr hd)]
  have ha : storedAmount ⟨0, 0⟩ = .ok ⟨0⟩ := rfl
  unfold createSalary
  rw [hc, ha]
  rfl

/-- A date that the database cannot store is refused, and not as a duplicate. -/
theorem createSalary_unstorable (hd : ¬ Storable date) :
    db.createSalary now companyId employeeId ⟨0, 0⟩ date =
      .error (.failed (.cause "date out of range")) := by
  have hc : checkDate date = .error (refuse "date out of range") := by
    unfold checkDate
    rw [if_pos (Int.not_le.mp hd)]
  unfold createSalary
  rw [hc]
  rfl

/-- A second salary of an employee from one date on is a duplicate. -/
theorem createSalary_again (hd : Storable date)
    (h : ∃ s ∈ db.salaries, s.employeeId = employeeId ∧ s.effectiveDate = date) :
    db.createSalary now companyId employeeId ⟨0, 0⟩ date = .error (.duplicate salaryKey) := by
  rw [createSalary_zero hd, insertSalary, if_pos (by simpa using h)]
  rfl

/-- The first salary of an employee from a date on is added. -/
theorem createSalary_first (hd : Storable date) (he : ∃ e ∈ db.employees, e.id = employeeId)
    (h : ¬ ∃ s ∈ db.salaries, s.employeeId = employeeId ∧ s.effectiveDate = date) :
    db.createSalary now companyId employeeId ⟨0, 0⟩ date =
      .ok { db with
        salaries := db.salaries ++ [openedSalary now companyId employeeId date] } := by
  rw [createSalary_zero hd, insertSalary, if_neg (by simpa using h), if_pos (by simpa using he)]
  rfl

/-- The first salary of an employee that does not exist is refused, and not as a duplicate. -/
theorem createSalary_unknown (hd : Storable date) (he : ¬ ∃ e ∈ db.employees, e.id = employeeId)
    (h : ¬ ∃ s ∈ db.salaries, s.employeeId = employeeId ∧ s.effectiveDate = date) :
    ∃ failure, db.createSalary now companyId employeeId ⟨0, 0⟩ date = .error (.failed failure) := by
  rw [createSalary_zero hd, insertSalary, if_neg (by simpa using h), if_neg (by simpa using he)]
  exact ⟨_, rfl⟩

end HrPipeline.Database

namespace HrPipeline.Scenario.Bench

open HrPipeline.Calendar HrPipeline.Consumer HrPipeline.Database

/-- The delivery of an event to the handler at an instant. -/
def deliver (event : EmployeeCreated) (now : Instant) (bench : Bench) :
    Except EffectError Unit × Bench :=
  handleEmployeeCreated domain event { bench with world := { bench.world with clock := now } }

/-- The consumer after deliveries of an event at some instants. -/
def deliverAll (event : EmployeeCreated) (times : List Instant) (bench : Bench) : Bench :=
  times.foldl (fun bench now => (bench.deliver event now).2) bench

/-- The salaries of an employee in the database of the consumer. -/
def salariesOf (employeeId : Uuid) (bench : Bench) : List Salary :=
  match bench.world.storage.tables? with
  | some db => db.salaries.filter (·.employeeId = employeeId)
  | none => []

/-- The instants at which a salary is opened: each is the first of a day that the database can
store, other than the days seen before. -/
def openings (seen : List Date) : List Instant → List Instant
  | [] => []
  | now :: times =>
    if now.date ∈ seen ∨ ¬ Storable now.date then openings seen times
    else now :: openings (now.date :: seen) times

/-- The salary that an event opens at an instant. -/
def salaryAt (event : EmployeeCreated) (now : Instant) : Salary :=
  openedSalary now event.companyId event.employeeId now.date

/-- The consumer works on a database within reach that knows the employee. -/
structure Employs (event : EmployeeCreated) (db : Database) (mode : ClaimMode)
    (maxAttempts : Option Int) (bench : Bench) : Prop where
  storage : bench.world.storage = .database db mode maxAttempts
  failures : bench.worker.failures = 0
  employed : ∃ e ∈ db.employees, e.id = event.employeeId

variable {event : EmployeeCreated} {db : Database} {mode : ClaimMode} {maxAttempts : Option Int}
  {bench : Bench} {now : Instant}

/-- A delivery does what the database says to the salary. -/
private theorem deliver_eq (h : bench.Employs event db mode maxAttempts) (now : Instant) :
    (bench.deliver event now).2.worker.failures = 0 ∧
      match db.createSalary now event.companyId event.employeeId ⟨0, 0⟩ now.date with
      | .ok db' => (bench.deliver event now).1 = .ok () ∧
          (bench.deliver event now).2.world.storage = .database db' mode maxAttempts
      | .error error => (bench.deliver event now).1 = .error error ∧
          (bench.deliver event now).2.world.storage = .database db mode maxAttempts := by
  have hn : ¬ 0 < bench.worker.failures := by simp [h.failures]
  unfold deliver handleEmployeeCreated
  simp only [domain, call, if_neg hn, createSalary, h.storage, onWorld, World.createSalary,
    Storage.tables?]
  cases db.createSalary now event.companyId event.employeeId ⟨0, 0⟩ now.date with
  | error error => exact ⟨h.failures, rfl, rfl⟩
  | ok db' =>
    exact ⟨h.failures, rfl, rfl⟩

/-- A delivery at a day that cannot be stored fails. -/
theorem deliver_unstorable (h : bench.Employs event db mode maxAttempts)
    (hd : ¬ Storable now.date) :
    (bench.deliver event now).1 = .error (.failed (.cause "date out of range")) ∧
      (bench.deliver event now).2.Employs event db mode maxAttempts := by
  have hs := deliver_eq h now
  rw [createSalary_unstorable hd] at hs
  exact ⟨hs.2.1, hs.2.2, hs.1, h.employed⟩

/-- A delivery at a day that has a salary is a duplicate. -/
theorem deliver_again (h : bench.Employs event db mode maxAttempts) (hd : Storable now.date)
    (hs : ∃ s ∈ db.salaries, s.employeeId = event.employeeId ∧ s.effectiveDate = now.date) :
    (bench.deliver event now).1 = .error (.duplicate salaryKey) ∧
      (bench.deliver event now).2.Employs event db mode maxAttempts := by
  have hc := deliver_eq h now
  rw [createSalary_again hd hs] at hc
  exact ⟨hc.2.1, hc.2.2, hc.1, h.employed⟩

/-- A delivery at a day without a salary opens one. -/
theorem deliver_first (h : bench.Employs event db mode maxAttempts) (hd : Storable now.date)
    (hs : ¬ ∃ s ∈ db.salaries, s.employeeId = event.employeeId ∧ s.effectiveDate = now.date) :
    (bench.deliver event now).1 = .ok () ∧
      (bench.deliver event now).2.Employs event
        { db with salaries := db.salaries ++ [salaryAt event now] } mode maxAttempts := by
  have hc := deliver_eq h now
  rw [createSalary_first hd h.employed hs] at hc
  exact ⟨hc.2.1, hc.2.2, hc.1, h.employed⟩

/-- Deliveries open a salary at each of the openings. -/
theorem deliverAll_employs (times : List Instant) {seen : List Date}
    (h : bench.Employs event db mode maxAttempts)
    (hseen : ∀ date, date ∈ seen ↔
      ∃ s ∈ db.salaries, s.employeeId = event.employeeId ∧ s.effectiveDate = date) :
    (bench.deliverAll event times).Employs event
      { db with salaries := db.salaries ++ (openings seen times).map (salaryAt event) }
      mode maxAttempts := by
  induction times generalizing bench db seen with
  | nil =>
    rw [openings, List.map_nil, List.append_nil]
    exact h
  | cons now times ih =>
    show ((bench.deliver event now).2.deliverAll event times).Employs event _ mode maxAttempts
    by_cases hd : Storable now.date
    · by_cases hm : now.date ∈ seen
      · rw [openings, if_pos (.inl hm)]
        exact ih (deliver_again h hd ((hseen now.date).mp hm)).2 hseen
      · rw [openings, if_neg (by simp [hm, hd])]
        have hfirst := (deliver_first h hd (fun hs => hm ((hseen now.date).mpr hs))).2
        have hlater : ∀ date, date ∈ now.date :: seen ↔
            ∃ s ∈ db.salaries ++ [salaryAt event now],
              s.employeeId = event.employeeId ∧ s.effectiveDate = date := by
          intro date
          rw [List.mem_cons, hseen date]
          constructor
          · rintro (rfl | ⟨s, hs, he⟩)
            · exact ⟨salaryAt event now, by simp, rfl, rfl⟩
            · exact ⟨s, List.mem_append_left _ hs, he⟩
          · rintro ⟨s, hs, he, hdate⟩
            rcases List.mem_append.mp hs with hs | hs
            · exact .inr ⟨s, hs, he, hdate⟩
            · obtain rfl := List.mem_singleton.mp hs
              exact .inl hdate.symm
        have hrest := ih hfirst hlater
        simpa using hrest
    · rw [openings, if_pos (.inr hd)]
      exact ih (deliver_unstorable h hd).2 hseen

/-- A delivery is a duplicate exactly if the day has a salary. -/
theorem deliver_duplicate_iff (h : bench.Employs event db mode maxAttempts) :
    (bench.deliver event now).1 = .error (.duplicate salaryKey) ↔ Storable now.date ∧
      ∃ s ∈ db.salaries, s.employeeId = event.employeeId ∧ s.effectiveDate = now.date := by
  constructor
  · intro hr
    by_cases hd : Storable now.date
    · refine ⟨hd, ?_⟩
      by_contra hs
      rw [(deliver_first h hd hs).1] at hr
      cases hr
    · rw [(deliver_unstorable h hd).1] at hr
      cases hr
  · rintro ⟨hd, hs⟩
    exact (deliver_again h hd hs).1

/-- Days that were seen before open nothing. -/
theorem openings_of_seen {seen : List Date} {times : List Instant}
    (h : ∀ now ∈ times, now.date ∈ seen) : openings seen times = [] := by
  induction times with
  | nil => rfl
  | cons now times ih =>
    rw [openings, if_pos (.inl (h now List.mem_cons_self))]
    exact ih fun other ho => h other (List.mem_cons_of_mem now ho)

/-- The event was applied once by a delivery and those after it: there is one salary, and every
delivery after the first is a duplicate and changes nothing. -/
def AppliedOnce (event : EmployeeCreated) (first : Instant) (rest : List Instant)
    (bench : Bench) : Prop :=
  ((bench.deliverAll event (first :: rest)).salariesOf event.employeeId).length = 1 ∧
    ∀ earlier now later, rest = earlier ++ now :: later →
      let before := bench.deliverAll event (first :: earlier)
      (before.deliver event now).1 = .error (.duplicate salaryKey) ∧
        (before.deliver event now).2.world.storage = before.world.storage

variable {first : Instant} {rest : List Instant}

/-- An employee without a salary gets one for each opening. -/
private theorem salariesOf_deliverAll (h : bench.Employs event db mode maxAttempts)
    (hn : ∀ s ∈ db.salaries, s.employeeId ≠ event.employeeId) (times : List Instant) :
    (bench.deliverAll event times).salariesOf event.employeeId =
      (openings [] times).map (salaryAt event) := by
  have hseen : ∀ date, date ∈ [] ↔
      ∃ s ∈ db.salaries, s.employeeId = event.employeeId ∧ s.effectiveDate = date := by
    intro date
    refine iff_of_false List.not_mem_nil ?_
    rintro ⟨s, hs, he, -⟩
    exact hn s hs he
  have hold : db.salaries.filter (·.employeeId = event.employeeId) = [] := by
    rw [List.filter_eq_nil_iff]
    intro s hs
    simpa using hn s hs
  have hnew : ((openings [] times).map (salaryAt event)).filter
      (·.employeeId = event.employeeId) = (openings [] times).map (salaryAt event) := by
    rw [List.filter_eq_self]
    intro s hs
    obtain ⟨now, -, rfl⟩ := List.mem_map.mp hs
    exact decide_eq_true rfl
  rw [salariesOf, (deliverAll_employs times h hseen).storage]
  show (db.salaries ++ _).filter _ = _
  rw [List.filter_append, hold, hnew, List.nil_append]

private theorem deliverAll_concat (times : List Instant) (now : Instant) :
    bench.deliverAll event (times ++ [now]) =
      ((bench.deliverAll event times).deliver event now).2 := by
  unfold deliverAll
  rw [List.foldl_append]
  rfl

/-- If the first delivery is at a day that can be stored and all the others are duplicates, then
they are at that day. -/
private theorem same_day_of_duplicates (h : bench.Employs event db mode maxAttempts)
    (hn : ∀ s ∈ db.salaries, s.employeeId ≠ event.employeeId) (hd : Storable first.date)
    (earlier : List Instant)
    (hdup : ∀ before now after, earlier = before ++ now :: after →
      ((bench.deliverAll event (first :: before)).deliver event now).1 =
        .error (.duplicate salaryKey)) :
    (bench.deliverAll event (first :: earlier)).Employs event
        { db with salaries := db.salaries ++ [salaryAt event first] } mode maxAttempts ∧
      ∀ now ∈ earlier, now.date = first.date := by
  induction earlier using List.reverseRecOn with
  | nil =>
    refine ⟨(deliver_first h hd ?_).2, by simp⟩
    rintro ⟨s, hs, he, -⟩
    exact hn s hs he
  | append_singleton earlier now ih =>
    obtain ⟨hbefore, hsame⟩ := ih fun before other after he =>
      hdup before other (after ++ [now]) (by rw [he]; simp)
    have hr := hdup earlier now [] rfl
    obtain ⟨hstorable, s, hs, he, hdate⟩ := (deliver_duplicate_iff hbefore).mp hr
    have hnow : now.date = first.date := by
      rcases List.mem_append.mp hs with hs | hs
      · exact absurd he (hn s hs)
      · obtain rfl := List.mem_singleton.mp hs
        exact hdate.symm
    refine ⟨?_, ?_⟩
    · rw [← List.cons_append, deliverAll_concat]
      exact (deliver_again hbefore hstorable ⟨s, hs, he, hdate⟩).2
    · intro other ho
      rcases List.mem_append.mp ho with ho | ho
      · exact hsame other ho
      · rw [List.mem_singleton.mp ho]
        exact hnow

/-- An employee without a salary gets one salary for each day on which the event is delivered, and
so the event is applied once exactly if all its deliveries are on one day. -/
theorem appliedOnce_iff_same_day (h : bench.Employs event db mode maxAttempts)
    (hn : ∀ s ∈ db.salaries, s.employeeId ≠ event.employeeId) :
    (bench.deliverAll event (first :: rest)).salariesOf event.employeeId =
        (openings [] (first :: rest)).map (salaryAt event) ∧
      (bench.AppliedOnce event first rest ↔
        Storable first.date ∧ ∀ now ∈ rest, now.date = first.date) := by
  have hnone : ∀ date, ¬ ∃ s ∈ db.salaries,
      s.employeeId = event.employeeId ∧ s.effectiveDate = date := by
    rintro date ⟨s, hs, he, -⟩
    exact hn s hs he
  refine ⟨salariesOf_deliverAll h hn _, ?_, ?_⟩
  · rintro ⟨hone, hdup⟩
    have hd : Storable first.date := by
      by_contra hd
      have hfirst := (deliver_unstorable h hd).2
      cases rest with
      | nil =>
        rw [salariesOf_deliverAll h hn, openings, if_pos (.inr hd)] at hone
        cases hone
      | cons now later =>
        obtain ⟨-, hs⟩ := (deliver_duplicate_iff hfirst).mp (hdup [] now later rfl).1
        exact hnone now.date hs
    exact ⟨hd, (same_day_of_duplicates h hn hd rest
      fun before now after he => (hdup before now after he).1).2⟩
  · rintro ⟨hd, hsame⟩
    have hopen : ∀ times : List Instant, (∀ now ∈ times, now.date = first.date) →
        openings [] (first :: times) = [first] := by
      intro times ht
      rw [openings, if_neg (by simp [hd]), openings_of_seen]
      intro now hm
      rw [ht now hm]
      exact List.mem_singleton_self first.date
    constructor
    · rw [salariesOf_deliverAll h hn, hopen rest hsame]
      rfl
    · intro earlier now later he
      have hnow : now.date = first.date := hsame now (by rw [he]; simp)
      have hbefore := deliverAll_employs (first :: earlier) h
        (fun date => iff_of_false List.not_mem_nil (hnone date))
      rw [hopen earlier fun other ho => hsame other (by rw [he]; simp [ho])] at hbefore
      have hr := deliver_again hbefore (hnow ▸ hd)
        ⟨salaryAt event first, by simp, rfl, hnow.symm⟩
      exact ⟨hr.1, hr.2.storage.trans hbefore.storage.symm⟩

section Midnight

/-- The last second of a day. -/
def beforeMidnight : Instant := ⟨1772409599, 0⟩

/-- The first second of the next day. -/
def afterMidnight : Instant := ⟨1772409600, 0⟩

/-- An event about an employee. -/
def hiredLate : EmployeeCreated :=
  EmployeeCreated.new (Uuid.reserved 1) (Uuid.reserved 2) none beforeMidnight

/-- A database with that employee and nothing else. -/
def registry : Database :=
  { Database.empty with employees := [
    ⟨Uuid.reserved 1, Uuid.reserved 2, "Ada", "Lovelace", "ada@example.com", beforeMidnight,
      beforeMidnight⟩] }

/-- A salary consumer on that database. -/
def clerk : Bench where
  world := World.start beforeMidnight beforeMidnight (.database registry .shared none) none
  worker := .new .salary ⟨"salaries", employeeTopic, 50⟩ ⟨"salaries", employeeTopic, 0⟩ 0 0 0 0
  start := beforeMidnight
  duration := 0
  timeline := []

theorem employs_clerk : clerk.Employs hiredLate registry .shared none :=
  ⟨rfl, rfl, _, List.mem_singleton_self _, rfl⟩

/-- Two deliveries on one day apply the event once. -/
theorem appliedOnce_before_midnight :
    clerk.AppliedOnce hiredLate beforeMidnight [beforeMidnight] :=
  (appliedOnce_iff_same_day employs_clerk (by simp [registry, Database.empty])).2.mpr
    ⟨by decide, by simp⟩

/-- Not all deliveries at readings of the clock that do not go back apply an event once. -/
theorem not_appliedOnce_over_midnight :
    ¬ ∀ (event : EmployeeCreated) (db : Database) (mode : ClaimMode) (maxAttempts : Option Int)
        (bench : Bench) (first : Instant) (rest : List Instant),
      bench.Employs event db mode maxAttempts →
      (∀ s ∈ db.salaries, s.employeeId ≠ event.employeeId) →
      (first :: rest).Pairwise (· ≤ ·) → bench.AppliedOnce event first rest := by
  intro h
  have hone := (h hiredLate registry .shared none clerk beforeMidnight [afterMidnight]
    employs_clerk (by simp [registry, Database.empty]) (by decide)).1
  revert hone
  decide +kernel

end Midnight

end HrPipeline.Scenario.Bench
