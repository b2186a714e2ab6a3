import HrPipeline.Proofs.Scenario.Pipeline

/-!
# What stands on the topics

Whatever stands on a topic of the pipeline, in a row, with a publisher or on the broker, is to be
the body of an event that was emitted there, and the tables are to hold what the effect of the event
needs: `Pipeline.Sound` says so. Emitted events, employees and payrolls only ever become more, so
that what can be consumed once can be consumed for good; `Sound.extend` asks only for what is new.
-/

namespace HrPipeline

open HrPipeline.Broker HrPipeline.Calendar HrPipeline.Consumer HrPipeline.Outbox

namespace Scenario

section Announcing

variable {ε : Type} [DomainEvent ε]

/-- On the topic of such events, a payload denotes one of the emitted events, whose effect is
possible. -/
def Announced (emitted : List ε) (possible : ε → Prop) (topic : String) (payload : Bytes) :
    Prop :=
  topic = DomainEvent.topic ε → ∃ event ∈ emitted, DomainEvent.decode payload = .ok event ∧
    DomainEvent.isHandled event = true ∧ possible event

variable {emitted emitted' : List ε} {possible possible' : ε → Prop} {topic : String}
  {payload : Bytes}

theorem Announced.mono (h : Announced emitted possible topic payload)
    (he : ∀ event ∈ emitted, event ∈ emitted') (hp : ∀ event, possible event → possible' event) :
    Announced emitted' possible' topic payload := by
  intro ht
  obtain ⟨event, hevent, hd, hh, hpossible⟩ := h ht
  exact ⟨event, he event hevent, hd, hh, hp event hpossible⟩

/-- A row that tells of an emitted event. -/
theorem announced_of_tells {event : ε} {row : Row} (h : row.Tells event) (he : event ∈ emitted)
    (hp : possible event) : Announced emitted possible row.topic row.payload :=
  fun _ => ⟨event, he, h.payload, h.handled, hp⟩

/-- A message on the topic carries one of the emitted events. -/
theorem Announced.decode? {message : Inbound}
    (h : Announced emitted possible message.topic payload)
    (hp : message.payload = some payload) (ht : message.topic = DomainEvent.topic ε) :
    ∃ event ∈ emitted, Consumer.decode? ε message = some event ∧
      DomainEvent.isHandled event = true ∧ possible event := by
  obtain ⟨event, he, hd, hh, hpossible⟩ := h ht
  exact ⟨event, he, decode?_of_decode hp hd, hh, hpossible⟩

end Announcing

/-- The consumers handled only events that were emitted, and nothing came of a message but what is
allowed. -/
structure Journal.Sound {ε : Type} (allowed : Outcome → Prop) (journal : Journal ε) : Prop where
  handled : ∀ event result, Consumer.Call.handle event result ∈ journal.calls →
    event ∈ journal.emitted
  outcomes : ∀ entry ∈ journal.outcomes, allowed entry.2

namespace Journal.Sound

variable {ε : Type} {allowed : Outcome → Prop} {journal : Journal ε}

theorem emit (h : journal.Sound allowed) (event? : Option ε) :
    (journal.emit event?).Sound allowed where
  handled event result hm := List.mem_append_left _ (h.handled event result hm)
  outcomes := h.outcomes

theorem add (h : journal.Sound allowed) {calls : List (Consumer.Call ε)}
    {outcome? : Option (Inbound × Outcome)}
    (hc : ∀ event result, Consumer.Call.handle event result ∈ calls → event ∈ journal.emitted)
    (ho : ∀ entry, outcome? = some entry → allowed entry.2) :
    (journal.add calls outcome?).Sound allowed where
  handled event result hm := by
    rcases List.mem_append.mp hm with hm | hm
    · exact h.handled event result hm
    · exact hc event result hm
  outcomes entry hm := by
    rcases List.mem_append.mp hm with hm | hm
    · exact h.outcomes entry hm
    · exact ho entry (Option.mem_toList.mp hm)

end Journal.Sound

section Counting

variable {calls : List (Consumer.Call PayslipRequested)} {slips : List Payslip}

/-- No payslip has a revision beyond the number of calls that generated one of its payroll, and no
payroll has two payslips. -/
structure Counted (calls : List (Consumer.Call PayslipRequested)) (slips : List Payslip) : Prop where
  revisions : ∀ slip ∈ slips, slip.revision ≤ calls.countP (generates slip.payrollId)
  apart : (slips.map (·.payrollId)).Nodup

theorem Counted.append (h : Counted calls slips) (more : List (Consumer.Call PayslipRequested)) :
    Counted (calls ++ more) slips := by
  refine ⟨fun slip hm => ?_, h.apart⟩
  have hle := h.revisions slip hm
  rw [List.countP_append]
  omega

/-- A payslip is generated as its first or its next revision, and is counted. -/
theorem Counted.generated (h : Counted calls slips) {event : PayslipRequested} {id : Uuid}
    {payroll : Payroll} {now : Instant} {slips' : List Payslip}
    (hs : Database.Generates id payroll now slips slips') (hp : payroll.id = event.payrollId) :
    Counted (calls ++ [.handle event (.ok ())]) slips' := by
  refine ⟨fun slip hm => ?_, hs.nodup h.apart⟩
  rcases hs.mem hm with hold | ⟨hid, hrevision⟩
  · exact (h.append _).revisions slip hold
  · have hone : [Consumer.Call.handle event (.ok ())].countP (generates slip.payrollId) = 1 := by
      simp [generates, hid, hp]
    rw [List.countP_append, hone]
    rcases hrevision with hfirst | ⟨old, hold, hsame, hnext⟩
    · omega
    · have hle := h.revisions old hold
      rw [hsame, ← hid] at hle
      omega

end Counting

namespace Pipeline

/-- A payload on a topic tells of an emitted event whose effect the tables allow. -/
structure Tells (pipeline : Pipeline) (db : Database) (topic : String) (payload : Bytes) :
    Prop where
  employee : Announced pipeline.employees.emitted db.Employs topic payload
  payslip : Announced pipeline.payslips.emitted db.Owns topic payload

/-- A message has such a payload. -/
def Carries (pipeline : Pipeline) (db : Database) (message : Inbound) : Prop :=
  ∃ payload, message.payload = some payload ∧ pipeline.Tells db message.topic payload

/-- A consumer reads the topic of its kind, and none of its effects is to fail. -/
structure Employed (pipeline : Pipeline) (db : Database) (member : Member) : Prop where
  failures : member.worker.failures = 0
  topic : member.worker.source.topic = member.worker.kind.topic
  inHand : ∀ message, member.stage.message? = some message →
    message.topic = member.worker.kind.topic ∧ pipeline.Carries db message

/-- What may come of a message to the salary consumers. -/
def salaryAllows (outcome : Outcome) : Prop := outcome = .committed ∨ outcome = .duplicate

/-- What may come of a message to the payslip consumers. -/
def payslipAllows (outcome : Outcome) : Prop := outcome = .committed

/-- A pipeline in which everything on a topic can be consumed, with the tables of its database. -/
structure Sound (pipeline : Pipeline) (db : Database) : Prop where
  storage : ∃ mode ceiling, pipeline.world.storage = .database db mode ceiling
  rows : ∀ row ∈ db.outbox, pipeline.Tells db row.topic row.payload
  senders : ∀ sender ∈ pipeline.senders, ∀ row ∈ sender.stage.rows,
    pipeline.Tells db row.topic row.payload
  messages : ∀ message ∈ pipeline.world.broker.messages, pipeline.Carries db message
  members : ∀ member ∈ pipeline.members, pipeline.Employed db member
  revisions : Counted pipeline.payslips.calls db.payslips
  employees : pipeline.employees.Sound salaryAllows
  payslips : pipeline.payslips.Sound payslipAllows

/-- Nothing that was emitted is forgotten, and no employee and no payroll is lost. -/
structure Extends (pipeline pipeline' : Pipeline) (db db' : Database) : Prop where
  hired : ∀ event ∈ pipeline.employees.emitted, event ∈ pipeline'.employees.emitted
  requested : ∀ event ∈ pipeline.payslips.emitted, event ∈ pipeline'.payslips.emitted
  employees : ∀ employee ∈ db.employees, employee ∈ db'.employees
  payrolls : ∀ payroll ∈ db.payrolls, payroll ∈ db'.payrolls

variable {pipeline pipeline' : Pipeline} {db db' : Database} {topic : String}
  {payload : Bytes} {message : Inbound} {member : Member} {index : Nat}

/-- The other tables have no part in it. -/
theorem Extends.of_eq (hh : pipeline'.employees.emitted = pipeline.employees.emitted)
    (hr : pipeline'.payslips.emitted = pipeline.payslips.emitted)
    (he : db'.employees = db.employees) (hp : db'.payrolls = db.payrolls) :
    Extends pipeline pipeline' db db' :=
  ⟨fun _ hm => hh ▸ hm, fun _ hm => hr ▸ hm, fun _ hm => he ▸ hm, fun _ hm => hp ▸ hm⟩

theorem Tells.mono (h : pipeline.Tells db topic payload) (hx : Extends pipeline pipeline' db db') :
    pipeline'.Tells db' topic payload where
  employee := h.employee.mono hx.hired fun _ ⟨employee, hm, hid⟩ =>
    ⟨employee, hx.employees employee hm, hid⟩
  payslip := h.payslip.mono hx.requested fun _ ⟨payroll, hm, hid⟩ =>
    ⟨payroll, hx.payrolls payroll hm, hid⟩

theorem Carries.mono (h : pipeline.Carries db message) (hx : Extends pipeline pipeline' db db') :
    pipeline'.Carries db' message := by
  obtain ⟨payload, hp, ht⟩ := h
  exact ⟨payload, hp, ht.mono hx⟩

theorem Employed.mono (h : pipeline.Employed db member) (hx : Extends pipeline pipeline' db db') :
    pipeline'.Employed db' member where
  failures := h.failures
  topic := h.topic
  inHand message hm := ⟨(h.inHand message hm).1, (h.inHand message hm).2.mono hx⟩

/-- A row tells of what the row that it stems from tells of. -/
theorem tells_of_stemsFrom {rows : List Row} {row : Row} (h : row.StemsFrom rows)
    (hr : ∀ row ∈ rows, pipeline.Tells db row.topic row.payload) :
    pipeline.Tells db row.topic row.payload := by
  obtain ⟨old, hold, ho⟩ := h
  have htopic : row.topic = old.topic := show row.origin.topic = old.origin.topic by rw [ho]
  have hpayload : row.payload = old.payload :=
    show row.origin.payload = old.origin.payload by rw [ho]
  rw [htopic, hpayload]
  exact hr old hold

/-- A sound pipeline that is extended is sound if what is new in it can be consumed. -/
theorem Sound.extend (h : pipeline.Sound db) (hx : Extends pipeline pipeline' db db')
    (hs : ∃ mode ceiling, pipeline'.world.storage = .database db' mode ceiling)
    (hrows : ∀ row ∈ db'.outbox,
      row.StemsFrom db.outbox ∨ pipeline'.Tells db' row.topic row.payload)
    (hsenders : ∀ sender ∈ pipeline'.senders, sender ∈ pipeline.senders ∨
      ∀ row ∈ sender.stage.rows, pipeline.Tells db row.topic row.payload)
    (hmessages : ∀ message ∈ pipeline'.world.broker.messages,
      message ∈ pipeline.world.broker.messages ∨ pipeline.Carries db message)
    (hmembers : ∀ member ∈ pipeline'.members,
      member ∈ pipeline.members ∨ pipeline.Employed db member)
    (hr : Counted pipeline'.payslips.calls db'.payslips)
    (he : pipeline'.employees.Sound salaryAllows) (hp : pipeline'.payslips.Sound payslipAllows) :
    pipeline'.Sound db' where
  storage := hs
  rows row hm := (hrows row hm).elim (fun ho => (tells_of_stemsFrom ho h.rows).mono hx) id
  senders sender hm row hr :=
    ((hsenders sender hm).elim (fun ho => h.senders sender ho row hr) fun hn => hn row hr).mono hx
  messages message hm := ((hmessages message hm).elim (h.messages message) id).mono hx
  members member hm := ((hmembers member hm).elim (h.members member) id).mono hx
  revisions := hr
  employees := he
  payslips := hp

end Pipeline
end Scenario
end HrPipeline
