import HrPipeline.Proofs.Broker.Numbered
import HrPipeline.Proofs.Consumer.Positions
import HrPipeline.Scenario.Consuming

/-!
# The source of a consumer in a scenario

A consumer in a scenario reads a topic of one partition. Its calls move the position in that
partition as `Positions.Governs` tells, whatever faults are to happen, as long as its handler leaves
the source and the broker alone. Both handlers do.
-/

namespace HrPipeline.Scenario

open HrPipeline.Broker HrPipeline.Calendar HrPipeline.Consumer

namespace Bench

/-- The only partition of a topic with a source and what its group has committed. -/
def positions (topic : String) : Positions Bench where
  Valid bench := bench.worker.source.topic = topic ∧ bench.world.broker.Numbered
  Own message := message.topic = topic ∧ message.partition = 0
  position bench partition := if partition = 0 then bench.worker.source.position else 0
  stored bench partition :=
    if partition = 0 then (bench.world.broker.committed? bench.worker.source.group topic).getD 0
    else 0

/-- The source and the broker are the same in both states. -/
def SameSource (before after : Bench) : Prop :=
  after.worker.source = before.worker.source ∧ after.world.broker = before.world.broker

theorem SameSource.trans {a b c : Bench} (hab : SameSource a b) (hbc : SameSource b c) :
    SameSource a c := ⟨hbc.1.trans hab.1, hbc.2.trans hab.2⟩

theorem SameSource.kept {topic : String} {before after : Bench} (h : SameSource before after)
    (hv : (positions topic).Valid before) : (positions topic).Kept before after := by
  obtain ⟨hs, hb⟩ := h
  refine ⟨?_, ?_, ?_⟩
  · exact ⟨hs ▸ hv.1, hb ▸ hv.2⟩
  · simp only [positions, hs]
  · simp only [positions, hs, hb]

private theorem moved {topic : String} {before after : Bench}
    (hv : (positions topic).Valid before) {message : Inbound} (ho : message.partition = 0)
    (offset : Int)
    (hs : after.worker.source = { before.worker.source with position := offset })
    (hb : after.world.broker = before.world.broker) :
    (positions topic).Moved message.partition offset before after := by
  refine ⟨?_, ?_, ?_⟩
  · exact ⟨by rw [hs]; exact hv.1, hb ▸ hv.2⟩
  · funext partition
    simp only [positions, hs, ho, Function.update_apply]
    split <;> rfl
  · simp only [positions, hs, hb]

/-- A consumer in a scenario works on a source with positions. -/
theorem governs {ε : Type} (topic : String) {handle : ε → Bench → Except EffectError Unit × Bench}
    (hh : ∀ event bench, SameSource bench (handle event bench).2) :
    (positions topic).Governs (intake handle) where
  fetch_ok := by
    intro bench after message hv h
    simp only [intake, fetch] at h
    split at h
    · simp at h
    · split at h
      · next found source hf =>
        simp only [Prod.mk.injEq, Option.some.injEq, Except.ok.injEq] at h
        obtain ⟨rfl, rfl⟩ := h
        obtain ⟨ht, hz, ho, rfl⟩ := Source.fetch?_numbered hv.2 hf
        refine ⟨⟨ht.trans hv.1, hz⟩, ?_, moved hv hz _ rfl rfl⟩
        simp only [positions, hz, ho, if_true]
      · simp at h
  fetch_error := by
    intro bench after error hv h
    simp only [intake, fetch] at h
    split at h
    · obtain rfl := (Prod.mk.inj h).2
      exact SameSource.kept ⟨rfl, rfl⟩ hv
    · split at h <;> simp at h
  fetch_none := by
    intro bench after hv h
    simp only [intake, fetch] at h
    split at h
    · simp at h
    · split at h
      · simp at h
      · obtain rfl := (Prod.mk.inj h).2
        exact SameSource.kept ⟨rfl, rfl⟩ hv
  commit_ok := by
    intro bench after message hv ho h
    simp only [intake, commit] at h
    split at h
    · simp at h
    · obtain rfl := (Prod.mk.inj h).2
      refine ⟨⟨hv.1, hv.2⟩, rfl, _, ?_, .inr rfl⟩
      funext partition
      simp only [positions, Log.committed?_commit, ho.1, ho.2, and_self, if_true,
        Function.update_apply, Option.getD_some]
      split <;> rfl
  commit_error := by
    intro bench after message error hv ho h
    simp only [intake, commit] at h
    split at h
    · obtain rfl := (Prod.mk.inj h).2
      exact SameSource.kept ⟨rfl, rfl⟩ hv
    · simp at h
  rewind_ok := by
    intro bench after message hv ho h
    simp only [intake, rewind] at h
    split at h
    · simp at h
    · obtain rfl := (Prod.mk.inj h).2
      exact moved hv ho.2 _ rfl rfl
  rewind_error := by
    intro bench after message error hv ho h
    simp only [intake, rewind] at h
    split at h
    · obtain rfl := (Prod.mk.inj h).2
      exact SameSource.kept ⟨rfl, rfl⟩ hv
    · simp at h
  handle := by
    intro bench after event result hv h
    have hs := hh event bench
    simp only [intake] at h
    rw [h] at hs
    exact hs.kept hv
  note := by
    intro bench notice hv
    exact SameSource.kept ⟨rfl, rfl⟩ hv

private theorem sameSource_call {effect : Bench → Except EffectError Unit × Bench}
    (he : ∀ bench, SameSource bench (effect bench).2) (id : Uuid) (bench : Bench) :
    SameSource bench (call id effect bench).2 := by
  by_cases hf : 0 < bench.worker.failures
  · simp only [call, if_pos hf]
    exact ⟨rfl, rfl⟩
  · simp only [call, if_neg hf]
    exact he bench

private theorem sameSource_keepLedger (bench : Bench) (result : Except EffectError Ledger) :
    SameSource bench (bench.keepLedger result).2 := by
  cases result <;> exact ⟨rfl, rfl⟩

private theorem sameSource_onWorld {effect : World → Except EffectError Unit × World}
    (he : ∀ world, (effect world).2.broker = world.broker) (bench : Bench) :
    SameSource bench (bench.onWorld effect).2 :=
  ⟨rfl, he bench.world⟩

private theorem broker_keepTables (notice : Notice) (world : World)
    (result : Except EffectError Database) :
    (world.keepTables notice result).2.broker = world.broker := by
  cases result <;> rfl

private theorem sameSource_noted (domain : Domain Bench)
    (hn : ∀ notice bench, SameSource bench (domain.note notice bench)) (notice : Notice)
    {bench : Bench} {result : Except EffectError Unit × Bench} (h : SameSource bench result.2) :
    SameSource bench (noted domain notice result).2 := by
  rcases result with ⟨_ | _, after⟩
  · exact h
  · exact h.trans (hn notice after)

/-- Opening a salary leaves the source and the broker alone. -/
theorem sameSource_salary (event : EmployeeCreated) (bench : Bench) :
    SameSource bench (handleEmployeeCreated domain event bench).2 := by
  refine sameSource_noted domain (fun _ _ => ⟨rfl, rfl⟩) _ (sameSource_call ?_ _ bench)
  intro bench
  unfold createSalary
  split
  · exact sameSource_keepLedger bench _
  all_goals
    refine sameSource_onWorld ?_ bench
    intro world
    unfold World.createSalary
    split
    · rfl
    · exact broker_keepTables _ _ _

/-- Generating a payslip leaves the source and the broker alone. -/
theorem sameSource_payslip (event : PayslipRequested) (bench : Bench) :
    SameSource bench (handlePayslipRequested domain event bench).2 := by
  refine sameSource_noted domain (fun _ _ => ⟨rfl, rfl⟩) _ (sameSource_call ?_ _ bench)
  intro bench
  unfold generatePayslip
  split
  · exact sameSource_keepLedger bench _
  all_goals
    refine sameSource_onWorld ?_ bench
    intro world
    unfold World.generatePayslip
    split
    · rfl
    · exact broker_keepTables _ _ _

end Bench
end HrPipeline.Scenario
