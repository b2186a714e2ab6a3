import HrPipeline.Proofs.Calendar.Micros
import HrPipeline.Proofs.Database.Payslips
import HrPipeline.Scenario.Statements
import Mathlib.Data.List.Induction

/-!
# Payslips over a history of payrolls

Payrolls are inserted, their totals are changed, and payslips are asked for with any arguments, in
any order. `Database.generations` lists the requests of a history that were granted, each with the
payroll as it stood. Nothing else tells what the table of payslips holds: for a payroll it holds one
row, made of the first and the last generation and of their number, or none if there was none.
-/

namespace HrPipeline

open HrPipeline.Calendar

/-- What happens to payrolls and their payslips. -/
inductive PayrollAction where
  /-- The payslip of a payroll of a company is asked for; the identifier is for the first one. -/
  | generate (id companyId payrollId : Uuid)
  | insert (payroll : Payroll)
  | setTotal (payrollId : Uuid) (total : Decimal)
deriving DecidableEq

/-- The new identifier that an action comes with. -/
def PayrollAction.newId? : PayrollAction → Option Uuid
  | generate id _ _ => some id
  | insert _ | setTotal _ _ => none

/-- An action at a reading of the clock. -/
structure PayrollEntry where
  action : PayrollAction
  now : Instant
deriving DecidableEq

/-- A payslip that was generated: the identifier that came with the request, the payroll as it stood
and the time. -/
structure Generation where
  id : Uuid
  payroll : Payroll
  now : Instant
deriving DecidableEq

/-- The payslip that the generations for a payroll come to, if there are any. -/
def slipOf? (payrollId : Uuid) (generations : List Generation) : Option Payslip :=
  match generations.filter (·.payroll.id = payrollId) with
  | [] => none
  | first :: later =>
    let last := later.getLastD first
    some {
      id := first.id
      companyId := last.payroll.companyId
      payrollId := payrollId
      grossTotal := last.payroll.grossTotal
      revision := later.length + 1
      generatedAt := last.now }

namespace Database

/-- The tables after an action, if it is not refused. -/
def attempt (db : Database) (entry : PayrollEntry) : Option Database :=
  match entry.action with
  | .generate id companyId payrollId =>
    (db.generatePayslip entry.now id companyId payrollId).toOption
  | .insert payroll => (db.insertPayroll payroll).toOption.map (·.2)
  | .setTotal payrollId total =>
    ((Scenario.Statement.setGross payrollId total).run entry.now db).toOption.map (·.2)

/-- The tables after an action; one that is refused changes nothing. -/
def advance (db : Database) (entry : PayrollEntry) : Database := (db.attempt entry).getD db

/-- The tables after a history of actions. -/
def follow (db : Database) (history : List PayrollEntry) : Database := history.foldl advance db

/-- The payslip that an action generates, if it does. -/
def generation? (db : Database) (entry : PayrollEntry) : Option Generation :=
  match entry.action with
  | .generate id companyId payrollId =>
    match db.generatePayslip entry.now id companyId payrollId with
    | .ok _ => (db.payroll? companyId payrollId).map (⟨id, ·, entry.now⟩)
    | .error _ => none
  | .insert _ | .setTotal _ _ => none

/-- The payslips that a history of actions generates, in order. -/
def generations (db : Database) : List PayrollEntry → List Generation
  | [] => []
  | entry :: history => (db.generation? entry).toList ++ (db.advance entry).generations history

variable {db : Database} {entry : PayrollEntry} {history : List PayrollEntry}

theorem follow_concat (history : List PayrollEntry) (entry : PayrollEntry) :
    db.follow (history ++ [entry]) = (db.follow history).advance entry := by
  simp [follow]

theorem generations_append (history later : List PayrollEntry) :
    db.generations (history ++ later) =
      db.generations history ++ (db.follow history).generations later := by
  induction history generalizing db with
  | nil => rfl
  | cons entry history ih =>
    show (db.generation? entry).toList ++ (db.advance entry).generations (history ++ later) = _
    rw [ih, ← List.append_assoc]
    rfl

theorem generations_concat (history : List PayrollEntry) (entry : PayrollEntry) :
    db.generations (history ++ [entry]) =
      db.generations history ++ ((db.follow history).generation? entry).toList := by
  rw [generations_append]
  simp [generations]

end Database

section Slips

variable {generations : List Generation} {generation : Generation} {payrollId : Uuid}

/-- A payslip counts its generations and has the identifier of one of them. -/
theorem of_slipOf? {slip : Payslip} (h : slipOf? payrollId generations = some slip) :
    slip.revision = generations.countP (·.payroll.id = payrollId) ∧
      ∃ first ∈ generations, first.id = slip.id := by
  unfold slipOf? at h
  split at h
  · cases h
  · next first later hown =>
    have hfirst : first ∈ generations := by
      have hmem : first ∈ generations.filter (·.payroll.id = payrollId) := by simp [hown]
      exact (List.mem_filter.mp hmem).1
    obtain rfl := Option.some.inj h
    refine ⟨?_, first, hfirst, rfl⟩
    rw [List.countP_eq_length_filter, hown]
    rfl

/-- A generation for another payroll makes no difference. -/
theorem slipOf?_concat_other (h : payrollId ≠ generation.payroll.id) :
    slipOf? payrollId (generations ++ [generation]) = slipOf? payrollId generations := by
  unfold slipOf?
  rw [List.filter_append, List.filter_singleton, decide_eq_false (Ne.symm h)]
  simp

/-- A generation for a payroll makes its first payslip, or the next one if the payroll is still one
of the same company. -/
theorem slipOf?_concat_own (generation : Generation) (hn : generation.now.IsMicros)
    (hc : ∀ slip ∈ slipOf? generation.payroll.id generations,
      slip.companyId = generation.payroll.companyId) :
    slipOf? generation.payroll.id (generations ++ [generation]) =
      some ((slipOf? generation.payroll.id generations).elim
        (Database.firstPayslip generation.id generation.payroll generation.now)
        (Database.nextPayslip generation.payroll generation.now)) := by
  unfold slipOf? at hc ⊢
  rw [List.filter_append]
  cases hown : generations.filter (·.payroll.id = generation.payroll.id) with
  | nil => simp [Database.firstPayslip, hn.toMicros_eq]
  | cons first later =>
    have hcompany : (later.getLastD first).payroll.companyId = generation.payroll.companyId := by
      simpa [hown] using hc
    simpa [Database.nextPayslip, hn.toMicros_eq] using hcompany.symm

end Slips

namespace Database

variable {db : Database} {entry : PayrollEntry} {history : List PayrollEntry}
  {now : Instant} {id companyId payrollId : Uuid} {payroll : Payroll}

/-- What neither an inserted payroll nor a changed total touches. -/
structure Keeps (db db' : Database) : Prop where
  payslips : db'.payslips = db.payslips
  keys : (db.payrolls.map (·.id)).Nodup → (db'.payrolls.map (·.id)).Nodup
  payrolls : ∀ payroll ∈ db.payrolls, ∃ payroll' ∈ db'.payrolls,
    payroll'.id = payroll.id ∧ payroll'.companyId = payroll.companyId

theorem Keeps.refl (db : Database) : Keeps db db :=
  ⟨rfl, id, fun payroll hm => ⟨payroll, hm, rfl, rfl⟩⟩

theorem insertPayroll_keeps {result : Payroll × Database}
    (h : db.insertPayroll payroll = .ok result) : Keeps db result.2 := by
  unfold insertPayroll at h
  cases hs : checkDate payroll.periodStart with
  | error error => simp [hs, bind, Except.bind] at h
  | ok _ =>
    cases he : checkDate payroll.periodEnd with
    | error error => simp [hs, he, bind, Except.bind] at h
    | ok _ =>
      simp only [hs, he, bind, Except.bind] at h
      split at h
      · cases h
      split at h
      · cases h
      · next hnew =>
        cases h
        refine ⟨rfl, fun hkeys => ?_, fun payroll hm => ⟨payroll, ?_, rfl, rfl⟩⟩
        · rw [List.map_append, List.map_singleton]
          refine List.nodup_append'.mpr ⟨hkeys, List.nodup_singleton _, ?_⟩
          rw [List.disjoint_singleton]
          simpa using hnew
        · exact List.mem_append_left _ hm

theorem setGross_keeps {total : Decimal} {result : Nat × Database}
    (h : (Scenario.Statement.setGross payrollId total).run now db = .ok result) :
    Keeps db result.2 := by
  simp only [Scenario.Statement.run, bind, Except.bind] at h
  cases hs : storedAmount total with
  | error error => simp [hs] at h
  | ok amount =>
    simp only [hs, Scenario.changeWhere] at h
    cases h
    refine ⟨rfl, fun hkeys => ?_, fun payroll hm => ?_⟩
    · rw [List.map_map]
      have hsame : (fun payroll : Payroll => payroll.id) ∘ (fun payroll =>
          if decide (payroll.id = payrollId) then { payroll with grossTotal := amount }
          else payroll) = (·.id) := by
        funext payroll
        simp only [Function.comp]
        split <;> rfl
      rwa [hsame]
    · refine ⟨_, List.mem_map_of_mem hm, ?_⟩
      split <;> exact ⟨rfl, rfl⟩

/-- What asks for no payslip leaves the payslips alone. -/
theorem advance_keeps (h : entry.action.newId? = none) : Keeps db (db.advance entry) := by
  obtain ⟨action, now⟩ := entry
  cases action with
  | generate id companyId payrollId => cases h
  | insert payroll =>
    simp only [advance, attempt]
    cases hi : db.insertPayroll payroll with
    | error error => exact .refl db
    | ok result => exact insertPayroll_keeps hi
  | setTotal payrollId total =>
    simp only [advance, attempt]
    cases hs : (Scenario.Statement.setGross payrollId total).run now db with
    | error error => exact .refl db
    | ok result => exact setGross_keeps hs

/-- The identifier of a generation came with a request. -/
theorem mem_newIds_of_generations {generation : Generation}
    (h : generation ∈ db.generations history) :
    generation.id ∈ history.filterMap (·.action.newId?) := by
  induction history generalizing db with
  | nil => cases h
  | cons entry history ih =>
    rw [List.mem_filterMap]
    rcases List.mem_append.mp h with hfirst | hlater
    · obtain ⟨action, now⟩ := entry
      refine ⟨_, List.mem_cons_self, ?_⟩
      simp only [generation?] at hfirst
      split at hfirst
      · split at hfirst
        · obtain ⟨payroll, -, rfl⟩ : ∃ payroll, _ = some payroll ∧ _ = generation := by
            simpa using hfirst
          rfl
        · cases hfirst
      all_goals cases hfirst
    · obtain ⟨later, hm, hid⟩ := List.mem_filterMap.mp (ih hlater)
      exact ⟨later, List.mem_cons_of_mem _ hm, hid⟩

/-- The payslips after a history: one for each payroll with a generation, and none else. -/
structure InPlace (db : Database) (history : List PayrollEntry) : Prop where
  keys : ((db.follow history).payrolls.map (·.id)).Nodup
  slips : ∀ payrollId, (db.follow history).payslips.filter (·.payrollId = payrollId) =
    (slipOf? payrollId (db.generations history)).toList
  owned : ∀ slip ∈ (db.follow history).payslips, ∃ payroll ∈ (db.follow history).payrolls,
    payroll.id = slip.payrollId ∧ payroll.companyId = slip.companyId

namespace InPlace

/-- A payslip is what its generations come to. -/
theorem slipOf?_eq (h : InPlace db history) {slip : Payslip}
    (hm : slip ∈ (db.follow history).payslips) :
    slipOf? slip.payrollId (db.generations history) = some slip := by
  have hown : slip ∈ (db.follow history).payslips.filter (·.payrollId = slip.payrollId) :=
    List.mem_filter.mpr ⟨hm, decide_eq_true rfl⟩
  rw [h.slips] at hown
  simpa using hown

/-- A payslip and the payroll that it is for belong to the same company. -/
theorem company_eq (h : InPlace db history) (hp : payroll ∈ (db.follow history).payrolls)
    {slip : Payslip} (hs : slip ∈ slipOf? payroll.id (db.generations history)) :
    slip.companyId = payroll.companyId := by
  have hm : slip ∈ (db.follow history).payslips.filter (·.payrollId = payroll.id) := by
    rw [h.slips]
    exact Option.mem_toList.mpr hs
  obtain ⟨hm, hid⟩ := List.mem_filter.mp hm
  obtain ⟨owner, ho, hoid, hcompany⟩ := h.owned slip hm
  have hsame : owner = payroll :=
    List.inj_on_of_nodup_map h.keys ho hp (hoid.trans (of_decide_eq_true hid))
  rw [← hcompany, hsame]

/-- The payslip of a payroll that exists is generated. -/
theorem grants (h : InPlace db history)
    (hp : (db.follow history).payroll? companyId payrollId = some payroll)
    (hid : id ∉ history.filterMap (·.action.newId?))
    (hfew : ((db.generations history).countP (·.payroll.id = payrollId) : Int) < maxInteger)
    (now : Instant) :
    ∃ payslips, Generates id payroll now (db.follow history).payslips payslips ∧
      (db.follow history).generatePayslip now id companyId payrollId =
        .ok { db.follow history with payslips } := by
  refine generatePayslip_generates hp ?_ ?_ now
  · rintro slip hm rfl
    rw [(of_slipOf? (h.slipOf?_eq hm)).1]
    exact hfew
  · intro _ htaken
    obtain ⟨slip, hm, rfl⟩ := List.mem_map.mp htaken
    obtain ⟨first, hf, hfid⟩ := (of_slipOf? (h.slipOf?_eq hm)).2
    exact hid (hfid ▸ mem_newIds_of_generations hf)

/-- An action that neither touches the payslips nor generates one. -/
theorem unchanged (h : InPlace db history)
    (hk : Keeps (db.follow history) ((db.follow history).advance entry))
    (hg : (db.follow history).generation? entry = none) : InPlace db (history ++ [entry]) where
  keys := by
    rw [follow_concat]
    exact hk.keys h.keys
  slips payrollId := by
    rw [follow_concat, hk.payslips, generations_concat, hg, Option.toList_none, List.append_nil]
    exact h.slips payrollId
  owned := by
    rw [follow_concat, hk.payslips]
    intro slip hm
    obtain ⟨owner, ho, hoid, hcompany⟩ := h.owned slip hm
    obtain ⟨owner', ho', hoid', hcompany'⟩ := hk.payrolls owner ho
    exact ⟨owner', ho', hoid'.trans hoid, hcompany'.trans hcompany⟩

/-- An action that generates a payslip. -/
theorem generated (h : InPlace db history) (hm : payroll ∈ (db.follow history).payrolls)
    {payslips : List Payslip}
    (hp : Generates id payroll entry.now (db.follow history).payslips payslips)
    (ha : (db.follow history).advance entry = { db.follow history with payslips })
    (hg : (db.follow history).generation? entry = some ⟨id, payroll, entry.now⟩)
    (hn : entry.now.IsMicros) : InPlace db (history ++ [entry]) where
  keys := by
    rw [follow_concat, ha]
    exact h.keys
  slips payrollId := by
    rw [follow_concat, ha, generations_concat, hg, Option.toList_some]
    by_cases hown : payrollId = payroll.id
    · subst hown
      have hslip := slipOf?_concat_own ⟨id, payroll, entry.now⟩ hn
        fun slip hs => h.company_eq hm hs
      rw [hslip]
      exact hp.filter_own (h.slips payroll.id)
    · rw [slipOf?_concat_other hown, ← h.slips]
      exact hp.filter_other hown
  owned := by
    rw [follow_concat, ha]
    intro slip hs
    rcases hp.companyId_eq hs with ⟨hid, hcompany⟩ | ⟨old, hold, hid, hcompany⟩
    · exact ⟨payroll, hm, hid.symm, hcompany.symm⟩
    · rw [hid, hcompany]
      exact h.owned old hold

/-- One action more. -/
theorem concat (h : InPlace db history) (hn : entry.now.IsMicros)
    (hid : ∀ id ∈ entry.action.newId?, id ∉ history.filterMap (·.action.newId?))
    (hfew : ∀ payrollId,
      ((db.generations history).countP (·.payroll.id = payrollId) : Int) < maxInteger) :
    InPlace db (history ++ [entry]) := by
  obtain ⟨action, now⟩ := entry
  cases action with
  | insert payroll => exact h.unchanged (advance_keeps rfl) rfl
  | setTotal payrollId total => exact h.unchanged (advance_keeps rfl) rfl
  | generate id companyId payrollId =>
    cases hp : (db.follow history).payroll? companyId payrollId with
    | none =>
      obtain ⟨failure, hfailed⟩ := generatePayslip_unknown hp now id
      refine h.unchanged ?_ ?_
      · simp only [advance, attempt, hfailed]
        exact .refl _
      · simp only [generation?, hfailed]
    | some payroll =>
      obtain ⟨payslips, hgenerates, hok⟩ := h.grants hp (hid id rfl) (hfew payrollId) now
      refine h.generated (of_payroll? hp).1 hgenerates ?_ ?_ hn
      · simp only [advance, attempt, hok]
        rfl
      · simp only [generation?, hok, hp]
        rfl

end InPlace

/-- A history from a database without payslips that neither repeats a new identifier nor generates
more payslips for a payroll than can be counted. -/
structure Orderly (db : Database) (history : List PayrollEntry) : Prop where
  keys : (db.payrolls.map (·.id)).Nodup
  noSlips : db.payslips = []
  newIds : (history.filterMap (·.action.newId?)).Nodup
  micros : ∀ entry ∈ history, entry.now.IsMicros
  few : ∀ payrollId,
    ((db.generations history).countP (·.payroll.id = payrollId) : Int) < maxInteger

/-- So is every part that it starts with. -/
theorem Orderly.of_append {later : List PayrollEntry} (h : Orderly db (history ++ later)) :
    Orderly db history where
  keys := h.keys
  noSlips := h.noSlips
  newIds := by
    have hids := h.newIds
    rw [List.filterMap_append] at hids
    exact hids.of_append_left
  micros := fun entry hm => h.micros entry (List.mem_append_left _ hm)
  few := fun payrollId => by
    have hfew := h.few payrollId
    rw [generations_append, List.countP_append] at hfew
    omega

/-- An identifier that comes with a request has not come before. -/
theorem Orderly.newId {later : List PayrollEntry} (h : Orderly db (history ++ entry :: later))
    (hid : id ∈ entry.action.newId?) : id ∉ history.filterMap (·.action.newId?) := by
  have hids := h.newIds
  rw [List.filterMap_append] at hids
  intro hold
  refine List.disjoint_of_nodup_append hids hold ?_
  rw [List.mem_filterMap]
  exact ⟨entry, List.mem_cons_self, hid⟩

/-- Nothing but the generations of a history tells what payslips there are. -/
theorem Orderly.inPlace (h : Orderly db history) : InPlace db history := by
  induction history using List.reverseRecOn with
  | nil =>
    refine ⟨h.keys, fun payrollId => ?_, fun slip hm => ?_⟩
    · show db.payslips.filter _ = _
      rw [h.noSlips]
      rfl
    · have hm : slip ∈ db.payslips := hm
      rw [h.noSlips] at hm
      cases hm
  | append_singleton history entry ih =>
    exact (ih h.of_append).concat (h.micros entry (by simp)) (fun id => h.newId) h.of_append.few

/-- At every moment of a history, a payslip is generated if and only if the payroll is one of the
company. There is one payslip for each payroll with a generation and none else: it has the
identifier of the first, the total and the time of the last, and their number as its revision. -/
theorem payslips_regenerated_in_place (h : Orderly db history) :
    (∀ before later id companyId payrollId now,
      history = before ++ ⟨.generate id companyId payrollId, now⟩ :: later →
        (((db.follow before).generatePayslip now id companyId payrollId).isOk = true ↔
          ∃ payroll ∈ (db.follow before).payrolls,
            payroll.id = payrollId ∧ payroll.companyId = companyId) ∧
        (((db.follow before).generatePayslip now id companyId payrollId).isOk = false →
          (db.follow (before ++ [⟨.generate id companyId payrollId, now⟩])).payslips =
            (db.follow before).payslips)) ∧
    ∀ done later, history = done ++ later →
      (∀ payrollId, (db.follow done).payslips.filter (·.payrollId = payrollId) =
        (slipOf? payrollId (db.generations done)).toList) ∧
      ∀ slip ∈ (db.follow done).payslips, ∃ payroll ∈ (db.follow done).payrolls,
        payroll.id = slip.payrollId ∧ payroll.companyId = slip.companyId := by
  constructor
  · rintro before later id companyId payrollId now rfl
    have hbefore := h.of_append
    constructor
    · rw [← payroll?_isSome_iff]
      cases hp : (db.follow before).payroll? companyId payrollId with
      | none =>
        obtain ⟨failure, hfailed⟩ := generatePayslip_unknown hp now id
        rw [hfailed]
        exact Iff.rfl
      | some payroll =>
        obtain ⟨payslips, -, hok⟩ :=
          hbefore.inPlace.grants hp (h.newId rfl) (hbefore.few payrollId) now
        rw [hok]
        exact Iff.rfl
    · intro hfailed
      rw [follow_concat]
      simp only [advance, attempt]
      cases hg : (db.follow before).generatePayslip now id companyId payrollId with
      | error failure => rfl
      | ok reached =>
        rw [hg] at hfailed
        cases hfailed
  · rintro done later rfl
    have hdone := h.of_append.inPlace
    exact ⟨hdone.slips, hdone.owned⟩

section TwoPayrolls

/-- One payroll of one company. -/
def onePayroll : Database :=
  { empty with
    payrolls := [Scenario.samplePayroll (.reserved 1) (.reserved 2) ⟨10000⟩ ⟨0, 0⟩] }

/-- Its payslip is generated twice, asked for by another company, and its total is changed; the
other company gets a payroll and a payslip of its own. -/
def twoPayrolls : List PayrollEntry :=
  [⟨.generate (.reserved 5) (.reserved 2) (.reserved 1), ⟨1, 0⟩⟩,
    ⟨.generate (.reserved 6) (.reserved 3) (.reserved 1), ⟨2, 0⟩⟩,
    ⟨.setTotal (.reserved 1) ⟨250, 0⟩, ⟨3, 0⟩⟩,
    ⟨.insert (Scenario.samplePayroll (.reserved 4) (.reserved 3) ⟨70000⟩ ⟨4, 0⟩), ⟨4, 0⟩⟩,
    ⟨.generate (.reserved 7) (.reserved 2) (.reserved 1), ⟨5, 0⟩⟩,
    ⟨.generate (.reserved 8) (.reserved 3) (.reserved 4), ⟨6, 0⟩⟩]

/-- The first payslip is there in its second revision, with the new total. -/
theorem twoPayrolls_regenerated :
    ((onePayroll.follow (twoPayrolls.take 1)).generatePayslip ⟨2, 0⟩ (.reserved 6) (.reserved 3)
        (.reserved 1)).isOk = false ∧
      (onePayroll.follow twoPayrolls).payslips.filter (·.payrollId = .reserved 1) =
        [⟨.reserved 5, .reserved 2, .reserved 1, ⟨25000⟩, 2, ⟨5, 0⟩⟩] := by
  have horderly : Orderly onePayroll twoPayrolls := by
    refine ⟨by decide +kernel, rfl, by decide +kernel, by decide +kernel, fun payrollId => ?_⟩
    have hlength : (onePayroll.generations twoPayrolls).length = 3 := by decide +kernel
    have hcount := (onePayroll.generations twoPayrolls).countP_le_length
      (p := (·.payroll.id = payrollId))
    unfold maxInteger
    omega
  obtain ⟨hrequests, hmoments⟩ := payslips_regenerated_in_place horderly
  constructor
  · rw [← Bool.not_eq_true, (hrequests _ _ _ _ _ _ rfl).1]
    decide +kernel
  · rw [(hmoments twoPayrolls [] rfl).1]
    decide +kernel

end TwoPayrolls

end Database
end HrPipeline
