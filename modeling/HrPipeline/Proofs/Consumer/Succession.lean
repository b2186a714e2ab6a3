import HrPipeline.Proofs.Scenario.BenchPositions

/-!
# Messages are settled in succession

The messages that successive visits settle have, in each partition, the offsets from its first
position on, without a gap and without repetition. `Succession` states this together with the
frontier and the stored offset that the visits leave behind, so that it carries over from a run to
one that begins a visit earlier. The consumers of a scenario are an instance.
-/

namespace HrPipeline.Consumer

open HrPipeline.Broker

/-- A number of integers, each greater by one than the one before. -/
def consecutive (start : Int) : Nat → List Int
  | 0 => []
  | count + 1 => start :: consecutive (start + 1) count

theorem consecutive_append (start : Int) (first second : Nat) :
    consecutive start first ++ consecutive (start + first) second =
      consecutive start (first + second) := by
  induction first generalizing start with
  | zero => simp [consecutive]
  | succ first ih =>
    have hs : start + ((first + 1 : Nat) : Int) = start + 1 + first := by omega
    rw [hs, Nat.succ_add, consecutive, List.cons_append, ih, consecutive]

variable {σ ε : Type}

/-- The offset of a message in a partition, if it is of that partition. -/
def offsetIn? (partition : Int) (message : Inbound) : Option Int :=
  if message.partition = partition then some message.offset else none

/-- The offsets of the messages of a partition that some visits settled, in order. -/
def settledOffsets (partition : Int) (visits : List (Visit ε)) : List Int :=
  (visits.filterMap Visit.settled?).filterMap (offsetIn? partition)

@[simp] theorem settledOffsets_nil (partition : Int) :
    settledOffsets partition ([] : List (Visit ε)) = [] := rfl

theorem settledOffsets_cons (partition : Int) (v : Visit ε) (rest : List (Visit ε)) :
    settledOffsets partition (v :: rest) =
      (v.settled?.bind (offsetIn? partition)).toList ++ settledOffsets partition rest := by
  unfold settledOffsets
  cases hs : v.settled? with
  | none => simp [hs]
  | some message => cases ho : offsetIn? partition message <;> simp [hs, ho]

/-- A settled message was processed. -/
theorem Visit.message?_of_settled? {v : Visit ε} {message : Inbound}
    (h : v.settled? = some message) : v.message? = some message := by
  unfold Visit.settled? at h
  split at h
  · split at h
    · cases h
    · exact h
  · cases h
  · cases h

namespace Positions

variable [DomainEvent ε]

/-- What a visit does that is made after some others: it calls the handler for the message that
follows the settled ones of its partition, and commits what it settles. -/
structure InOrder (start : Int → Int) (earlier : List (Visit ε)) (v : Visit ε) : Prop where
  handled : ∀ event result, Call.handle event result ∈ v.calls →
    ∃ (message : Inbound) (count : Nat), v.message? = some message ∧ decode? ε message = some event ∧
      settledOffsets message.partition earlier = consecutive (start message.partition) count ∧
      message.offset = start message.partition + count
  commits : v.commits = v.settled?.toList

/-- What visits do that begin at a frontier and with stored offsets. -/
structure Succession (view : Positions σ) (start stored : Int → Int) (visits : List (Visit ε))
    (pending : Option Inbound) (s : σ) : Prop where
  valid : view.Valid s
  own : ∀ message, pending = some message → view.Own message
  settled : ∀ partition, ∃ count : Nat,
    settledOffsets partition visits = consecutive (start partition) count ∧
      view.frontier pending s partition = start partition + count
  stored : ∀ partition,
    view.stored s partition ≤ max (stored partition) (view.frontier pending s partition)
  inOrder : ∀ earlier v later, visits = earlier ++ v :: later → InOrder start earlier v

variable {view : Positions σ} {intake : Intake σ ε}

/-- The settled message of a visit is at the frontier, which moves past it. -/
private theorem Visited.settles {pending pending' : Option Inbound} {s s' : σ} {v : Visit ε}
    (h : view.Visited pending s v pending' s') (partition : Int) :
    ∃ count : Nat, (v.settled?.bind (offsetIn? partition)).toList =
        consecutive (view.frontier pending s partition) count ∧
      view.frontier pending' s' partition = view.frontier pending s partition + count := by
  have hf := h.frontier
  cases hs : v.settled? with
  | none =>
    rw [hs] at hf
    exact ⟨0, rfl, by simp [hf]⟩
  | some message =>
    rw [hs] at hf
    by_cases hp : message.partition = partition
    · subst hp
      have ho := h.delivered message (Visit.message?_of_settled? hs)
      exact ⟨1, by simp [offsetIn?, consecutive, ho], by simp [hf, ho]⟩
    · have hn : partition ≠ message.partition := fun he => hp he.symm
      exact ⟨0, by simp [offsetIn?, consecutive, hp], by simp [hf, Function.update_of_ne hn]⟩

/-- A commit stores nothing past the frontier. -/
private theorem Visited.stores {pending pending' : Option Inbound} {s s' : σ} {v : Visit ε}
    (h : view.Visited pending s v pending' s') (partition : Int) :
    view.stored s' partition ≤
      max (view.stored s partition) (view.frontier pending' s' partition) := by
  rcases h.stored with ⟨message, hc, offset, hs, ho⟩ | ⟨-, hs⟩
  · have hsettled : v.settled? = some message := by
      have hm : message ∈ v.commits := List.mem_filterMap.mpr ⟨_, hc, rfl⟩
      rw [h.commits] at hm
      simpa using hm
    have hf := h.frontier
    rw [hsettled] at hf
    rw [hs, hf]
    by_cases hp : partition = message.partition
    · subst hp
      simp only [Function.update_self]
      omega
    · simp only [Function.update_of_ne hp]
      omega
  · rw [hs]
    omega

/-- The visits after a first one carry on where it left the frontier. -/
private theorem Succession.cons {pending pending' left : Option Inbound} {s s' final : σ}
    {v : Visit ε} {rest : List (Visit ε)} (hv : view.Visited pending s v pending' s')
    (hr : view.Succession (view.frontier pending' s') (view.stored s') rest left final) :
    view.Succession (view.frontier pending s) (view.stored s) (v :: rest) left final where
  valid := hr.valid
  own := hr.own
  settled partition := by
    obtain ⟨first, hfirst, hf⟩ := hv.settles partition
    obtain ⟨count, hcount, hleft⟩ := hr.settled partition
    refine ⟨first + count, ?_, by rw [hleft, hf]; omega⟩
    rw [settledOffsets_cons, hfirst, hcount, hf, consecutive_append]
  stored partition := by
    have hs := hv.stores partition
    have hl := hr.stored partition
    obtain ⟨count, -, hleft⟩ := hr.settled partition
    omega
  inOrder earlier w later he := by
    cases earlier with
    | nil =>
      obtain ⟨rfl, rfl⟩ := List.cons.inj he
      refine ⟨?_, hv.commits⟩
      intro event result hc
      obtain ⟨message, hm, hd⟩ := hv.handled event result hc
      exact ⟨message, 0, hm, hd, rfl, by simp [hv.delivered message hm]⟩
    | cons w' earlier =>
      obtain ⟨rfl, rfl⟩ := List.cons.inj he
      have hw := hr.inOrder earlier w later rfl
      refine ⟨?_, hw.commits⟩
      intro event result hc
      obtain ⟨message, count, hm, hd, hcount, ho⟩ := hw.handled event result hc
      obtain ⟨first, hfirst, hf⟩ := hv.settles message.partition
      refine ⟨message, first + count, hm, hd, ?_, by rw [ho, hf]; omega⟩
      rw [settledOffsets_cons, hfirst, hcount, hf, consecutive_append]

/-- Visits from any state in which the source works settle the messages from the frontier on. -/
theorem Governs.succession (laws : view.Governs intake) {count : Nat} {pending left : Option Inbound}
    {s final : σ} {all : List (Visit ε)} (hv : view.Valid s)
    (hp : ∀ message, pending = some message → view.Own message)
    (h : visits intake count pending s = (all, left, final)) :
    view.Succession (view.frontier pending s) (view.stored s) all left final := by
  induction count generalizing pending s all with
  | zero =>
    simp only [visits, Prod.mk.injEq] at h
    obtain ⟨rfl, rfl, rfl⟩ := h
    exact {
      valid := hv
      own := hp
      settled := fun partition => ⟨0, rfl, by simp⟩
      stored := fun partition => by omega
      inOrder := fun earlier v later he => by simp at he }
  | succ count ih =>
    rcases hf : visit intake pending s with ⟨first, pending', s'⟩
    have hfirst := laws.visit_visited hv hp hf
    rcases hr : visits intake count pending' s' with ⟨rest, left', final'⟩
    simp only [visits, hf, hr, Prod.mk.injEq] at h
    obtain ⟨rfl, rfl, rfl⟩ := h
    exact Succession.cons hfirst (ih hfirst.valid hfirst.own hr)

/-- A consumer never skips and never repeats a settled message. In each partition it settles the
messages from the first position on, one after the other; it calls the handler only for the message
that follows the settled ones of its partition, and commits exactly what it settles. What is stored
never passes what is settled. -/
theorem Governs.settles_in_succession (laws : view.Governs intake) {count : Nat}
    {left : Option Inbound} {s final : σ} {all : List (Visit ε)} (hv : view.Valid s)
    (h : visits intake count none s = (all, left, final)) :
    (∀ partition, ∃ settled : Nat,
      settledOffsets partition all = consecutive (view.position s partition) settled ∧
      view.stored final partition ≤
        max (view.stored s partition) (view.position s partition + settled)) ∧
    ∀ earlier v later, all = earlier ++ v :: later → InOrder (view.position s) earlier v := by
  have hs := laws.succession hv (by simp) h
  refine ⟨?_, hs.inOrder⟩
  intro partition
  obtain ⟨settled, hsettled, hf⟩ := hs.settled partition
  refine ⟨settled, hsettled, ?_⟩
  have hl := hs.stored partition
  rw [hf] at hl
  exact hl

section Hesitant

open HrPipeline.Scenario

/-- An event about a new employee. -/
def hired (number : Nat) : EmployeeCreated where
  requestId := none
  eventType := DomainEvent.eventType EmployeeCreated
  employeeId := Uuid.reserved number
  companyId := Uuid.reserved 0
  occurredAt := ⟨1784105400, 0⟩

/-- A consumer with two messages before it whose first effect fails, and then the rewind. -/
def hesitant : Bench where
  world :=
    { World.start ⟨1784105400, 0⟩ ⟨1784105400, 0⟩ (.memory (.empty none)) none with
      broker := (Log.empty.inject employeeTopic none (DomainEvent.encode (hired 1))).inject
        employeeTopic none (DomainEvent.encode (hired 2)) }
  worker := .new .salary ⟨"salaries", employeeTopic, 50⟩ ⟨"salaries", employeeTopic, 0⟩ 1 0 0 1
  start := ⟨1784105400, 0⟩
  duration := 0
  timeline := []

/-- The hesitant consumer settles both messages, the first of them at the second attempt. -/
theorem hesitant_settles_in_succession :
    (Bench.positions employeeTopic).Valid hesitant ∧
    settledOffsets 0 (visits Bench.salaryIntake 4 none hesitant).1 = [0, 1] ∧
    ∀ partition, ∃ settled : Nat,
      settledOffsets partition (visits Bench.salaryIntake 4 none hesitant).1 =
        consecutive ((Bench.positions employeeTopic).position hesitant partition) settled ∧
      (Bench.positions employeeTopic).stored (visits Bench.salaryIntake 4 none hesitant).2.2
          partition ≤
        max ((Bench.positions employeeTopic).stored hesitant partition)
          ((Bench.positions employeeTopic).position hesitant partition + settled) := by
  have hv : (Bench.positions employeeTopic).Valid hesitant :=
    ⟨rfl, Log.numbered_append (Log.numbered_append Log.numbered_empty _ _ _ _) _ _ _ _⟩
  refine ⟨hv, by decide +kernel, ?_⟩
  rcases h : visits Bench.salaryIntake 4 none hesitant with ⟨all, left, final⟩
  exact (Governs.settles_in_succession
    (Bench.governs employeeTopic Bench.sameSource_salary) hv h).1

end Hesitant

end Positions
end HrPipeline.Consumer
