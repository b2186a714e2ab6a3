import HrPipeline.Database.Effects
import Mathlib.Data.Fintype.Card
import Mathlib.Data.List.Nodup

/-!
# Payslips in the database

What generating a payslip comes to: nothing without the payroll of the company, a new row for the
first one, and a change of the row that is there for any other. A payroll has one payslip at most,
so that there is always an identifier left for another one.
-/

namespace HrPipeline

namespace Uuid

/-- Reserved identifiers have different numbers, as long as these have 128 bits. -/
private theorem reserved_inj {m n : Nat} (hm : m < Nat.pow 2 128) (hn : n < Nat.pow 2 128)
    (h : reserved m = reserved n) : m = n := by
  have hbits : BitVec.ofNat 128 m = BitVec.ofNat 128 n := by
    have hsum := Uuid.mk.inj h
    bv_omega
  have hnat := congrArg BitVec.toNat hbits
  rw [BitVec.toNat_ofNat, BitVec.toNat_ofNat] at hnat
  rwa [Nat.mod_eq_of_lt hm, Nat.mod_eq_of_lt hn] at hnat

/-- While not all identifiers are taken, there is one that is not. -/
theorem unused_not_mem {taken : List Uuid} (h : taken.length < Nat.pow 2 128) :
    unused taken ∉ taken := by
  unfold unused
  cases hfound : ((List.range (taken.length + 1)).map reserved).find? (· ∉ taken) with
  | some id => simpa using List.find?_some hfound
  | none =>
    exfalso
    have hnodup : ((List.range (taken.length + 1)).map reserved).Nodup := by
      refine List.Nodup.map_on ?_ List.nodup_range
      intro m hm n hn hmn
      rw [List.mem_range] at hm hn
      exact reserved_inj (by omega) (by omega) hmn
    have hsubset : (List.range (taken.length + 1)).map reserved ⊆ taken := by
      intro id hm
      simpa using List.find?_eq_none.mp hfound id hm
    have hlength := (hnodup.subperm hsubset).length_le
    rw [List.length_map, List.length_range] at hlength
    omega

/-- Different identifiers that are not all are fewer than all. -/
theorem length_lt_of_nodup {ids : List Uuid} (hn : ids.Nodup) (id : Uuid) (h : id ∉ ids) :
    ids.length < Nat.pow 2 128 := by
  have hinj : Function.Injective fun id : Uuid => id.bits.toFin := by
    rintro ⟨a⟩ ⟨b⟩ hab
    exact congrArg Uuid.mk (BitVec.eq_of_toFin_eq hab)
  have hcard := ((List.nodup_cons.mpr ⟨h, hn⟩).map hinj).length_le_card
  rw [Fintype.card_fin, List.length_map, List.length_cons] at hcard
  exact hcard

end Uuid

namespace Database

open HrPipeline.Calendar

variable {db : Database} {now : Instant} {id companyId payrollId : Uuid} {payroll : Payroll}

/-- A payroll of a company is found if there is one. -/
theorem payroll?_isSome_iff (db : Database) (companyId payrollId : Uuid) :
    (db.payroll? companyId payrollId).isSome = true ↔
      ∃ payroll ∈ db.payrolls, payroll.id = payrollId ∧ payroll.companyId = companyId := by
  unfold payroll?
  rw [List.find?_isSome]
  simp only [decide_eq_true_eq]

/-- The payroll that is found is one of the company, with the identifier. -/
theorem of_payroll? (h : db.payroll? companyId payrollId = some payroll) :
    payroll ∈ db.payrolls ∧ payroll.id = payrollId ∧ payroll.companyId = companyId := by
  refine ⟨List.mem_of_find?_eq_some h, ?_⟩
  simpa only [decide_eq_true_eq] using List.find?_some h

/-- Without the payroll, no payslip is generated. -/
theorem generatePayslip_unknown (h : db.payroll? companyId payrollId = none) (now : Instant)
    (id : Uuid) :
    ∃ failure, db.generatePayslip now id companyId payrollId = .error (.failed failure) := by
  unfold generatePayslip
  rw [h]
  exact ⟨_, rfl⟩

/-- How the payslips change when one of a payroll is generated. -/
inductive Generates (id : Uuid) (payroll : Payroll) (now : Instant) (slips : List Payslip) :
    List Payslip → Prop where
  /-- The first one is added. -/
  | first (hnone : ∀ slip ∈ slips, slip.payrollId ≠ payroll.id) :
    Generates id payroll now slips (slips ++ [firstPayslip id payroll now])
  /-- Any other takes the place of the one before. -/
  | next (hsome : ∃ slip ∈ slips, slip.payrollId = payroll.id) :
    Generates id payroll now slips (slips.map fun slip =>
      if slip.payrollId = payroll.id then nextPayslip payroll now slip else slip)

/-- A payslip of a payroll of the company is generated, if its revisions can be counted and the
identifier of the first one is new. -/
theorem generatePayslip_generates (hp : db.payroll? companyId payrollId = some payroll)
    (hr : ∀ slip ∈ db.payslips, slip.payrollId = payrollId → slip.revision < maxInteger)
    (hid : (∀ slip ∈ db.payslips, slip.payrollId ≠ payrollId) → id ∉ db.payslips.map (·.id))
    (now : Instant) :
    ∃ payslips, Generates id payroll now db.payslips payslips ∧
      db.generatePayslip now id companyId payrollId = .ok { db with payslips } := by
  obtain ⟨-, rfl, -⟩ := of_payroll? hp
  unfold generatePayslip
  rw [hp]
  simp only [upsertPayslip]
  cases hfind : db.payslips.find? (·.payrollId = payroll.id) with
  | none =>
    have hnone : ∀ slip ∈ db.payslips, slip.payrollId ≠ payroll.id := by simpa using hfind
    refine ⟨_, .first hnone, ?_⟩
    simp only
    rw [if_neg (by simpa using hid hnone)]
    rfl
  | some slip =>
    have hslip : slip.payrollId = payroll.id := by simpa using List.find?_some hfind
    have hmem := List.mem_of_find?_eq_some hfind
    refine ⟨_, .next ⟨slip, hmem, hslip⟩, ?_⟩
    simp only
    rw [if_neg (Int.not_le.mpr (hr slip hmem hslip))]
    rfl

namespace Generates

variable {slips slips' : List Payslip}

/-- A payslip stays one of its payroll. -/
private theorem payrollId_replaced (payroll : Payroll) (now : Instant) (slip : Payslip) :
    (if slip.payrollId = payroll.id then nextPayslip payroll now slip else slip).payrollId =
      slip.payrollId := by
  split <;> rfl

/-- A payroll has no second payslip. -/
theorem nodup (h : Generates id payroll now slips slips')
    (hn : (slips.map (·.payrollId)).Nodup) : (slips'.map (·.payrollId)).Nodup := by
  cases h with
  | first hnone =>
    rw [List.map_append, List.map_singleton]
    refine List.nodup_append'.mpr ⟨hn, List.nodup_singleton _, ?_⟩
    rw [List.disjoint_singleton]
    simpa [firstPayslip] using hnone
  | next hsome =>
    rw [List.map_map]
    simpa only [Function.comp_def, payrollId_replaced] using hn

/-- The payslips of other payrolls stay as they are. -/
theorem filter_other (h : Generates id payroll now slips slips') (hp : payrollId ≠ payroll.id) :
    slips'.filter (·.payrollId = payrollId) = slips.filter (·.payrollId = payrollId) := by
  cases h with
  | first hnone =>
    rw [List.filter_append, List.filter_singleton]
    simp [firstPayslip, Ne.symm hp]
  | next hsome =>
    rw [List.filter_map]
    simp only [Function.comp_def, payrollId_replaced]
    have hsame : ∀ slip ∈ slips.filter (·.payrollId = payrollId),
        (if slip.payrollId = payroll.id then nextPayslip payroll now slip else slip) = slip := by
      intro slip hm
      have hid : slip.payrollId = payrollId := of_decide_eq_true (List.mem_filter.mp hm).2
      rw [if_neg (hid ▸ hp)]
    rw [List.map_congr_left hsame, List.map_id']

/-- If the payroll had one payslip at most, it has one: its first, or the one after that. -/
theorem filter_own (h : Generates id payroll now slips slips') {old : Option Payslip}
    (ho : slips.filter (·.payrollId = payroll.id) = old.toList) :
    slips'.filter (·.payrollId = payroll.id) =
      [old.elim (firstPayslip id payroll now) (nextPayslip payroll now)] := by
  cases h with
  | first hnone =>
    have hnil : slips.filter (·.payrollId = payroll.id) = [] := by simpa using hnone
    obtain rfl : old = none := by simpa [hnil] using ho
    rw [List.filter_append, hnil]
    simp [firstPayslip]
  | next hsome =>
    have hmem : ∀ slip ∈ slips, slip.payrollId = payroll.id → slip ∈ old.toList := by
      intro slip hm hid
      rw [← ho]
      exact List.mem_filter.mpr ⟨hm, decide_eq_true hid⟩
    rw [List.filter_map]
    simp only [Function.comp_def, payrollId_replaced]
    rw [ho]
    obtain ⟨slip, hm, hid⟩ := hsome
    obtain rfl : old = some slip := by simpa using hmem slip hm hid
    simp [hid]

/-- The first payslip of a payroll is one of its company, and the others keep theirs. -/
theorem companyId_eq (h : Generates id payroll now slips slips') {slip : Payslip}
    (hm : slip ∈ slips') :
    (slip.payrollId = payroll.id ∧ slip.companyId = payroll.companyId) ∨
      ∃ old ∈ slips, slip.payrollId = old.payrollId ∧ slip.companyId = old.companyId := by
  cases h with
  | first hnone =>
    rcases List.mem_append.mp hm with hm | hm
    · exact .inr ⟨slip, hm, rfl, rfl⟩
    · rw [List.mem_singleton.mp hm]
      exact .inl ⟨rfl, rfl⟩
  | next hsome =>
    obtain ⟨old, hold, rfl⟩ := List.mem_map.mp hm
    refine .inr ⟨old, hold, payrollId_replaced payroll now old, ?_⟩
    split <;> rfl

/-- A payslip is one that was there, or one of the payroll with its first or its next revision. -/
theorem mem (h : Generates id payroll now slips slips') {slip : Payslip} (hm : slip ∈ slips') :
    slip ∈ slips ∨ slip.payrollId = payroll.id ∧ (slip.revision = 1 ∨
      ∃ old ∈ slips, old.payrollId = payroll.id ∧ slip.revision = old.revision + 1) := by
  cases h with
  | first hnone =>
    refine (List.mem_append.mp hm).imp_right fun hm => ?_
    rw [List.mem_singleton.mp hm]
    exact ⟨rfl, .inl rfl⟩
  | next hsome =>
    obtain ⟨old, hold, rfl⟩ := List.mem_map.mp hm
    split
    · next ho => exact .inr ⟨ho, .inr ⟨old, hold, ho, rfl⟩⟩
    · exact .inl hold

end Generates

/-- If every payroll has one payslip at most, there is an identifier left for the first one of
another payroll. -/
theorem unused_of_nodup (hn : (db.payslips.map (·.payrollId)).Nodup)
    (hnone : ∀ slip ∈ db.payslips, slip.payrollId ≠ payrollId) :
    Uuid.unused (db.payslips.map (·.id)) ∉ db.payslips.map (·.id) := by
  refine Uuid.unused_not_mem ?_
  have hlength := Uuid.length_lt_of_nodup hn payrollId (by simpa using hnone)
  rwa [List.length_map] at hlength ⊢

end Database
end HrPipeline
