import HrPipeline.Broker.Log

/-!
# Numbered logs

The messages of a topic stand in its only partition, and the offset of each is its index. A log that
only grows by appended messages stays so.
-/

namespace HrPipeline.Broker

open HrPipeline.Text

namespace Log

/-- The messages of every topic are in partition zero, at the offsets that are their indices. -/
def Numbered (log : Log) : Prop :=
  ∀ topic (index : Nat) message, (log.topic topic)[index]? = some message →
    message.partition = 0 ∧ message.offset = index

/-- A message in the log of a topic names that topic. -/
theorem topic_of_mem {log : Log} {name : String} {message : Inbound}
    (h : message ∈ log.topic name) : message.topic = name := by
  unfold Log.topic at h
  simpa using (List.mem_filter.mp h).2

theorem numbered_empty : Log.empty.Numbered := by
  intro topic index message h
  simp [Log.empty, Log.topic] at h

/-- An appended message gets the next number of its topic. -/
theorem numbered_append {log : Log} (h : log.Numbered) (topic : String)
    (key payload : Option Bytes) (headers : List (String × Bytes)) :
    (log.append topic key payload headers).Numbered := by
  intro name index message hm
  rw [topic_append] at hm
  split at hm
  · next ht =>
    subst ht
    rw [List.getElem?_append] at hm
    split at hm
    · exact h topic index message hm
    · next hi =>
      rw [List.getElem?_singleton] at hm
      split at hm
      · next hz =>
        obtain rfl := Option.some.inj hm
        refine ⟨rfl, ?_⟩
        have : index = (log.topic topic).length := by omega
        rw [this]
      · cases hm
  · exact h name index message hm

end Log

/-- What a source fetches from a numbered log is the message at its position. -/
theorem Source.fetch?_numbered {log : Log} (h : log.Numbered) {source moved : Source}
    {message : Inbound} (hf : source.fetch? log = some (message, moved)) :
    message.topic = source.topic ∧ message.partition = 0 ∧ message.offset = source.position ∧
      moved = { source with position := message.offset + 1 } := by
  unfold Source.fetch? Source.next? at hf
  split at hf
  · next hp =>
    cases hm : (log.topic source.topic)[source.position.toNat]? with
    | none => simp [hm] at hf
    | some found =>
      simp only [hm, Option.map_some, Option.some.injEq, Prod.mk.injEq] at hf
      obtain ⟨rfl, rfl⟩ := hf
      obtain ⟨hzero, ho⟩ := h _ _ _ hm
      refine ⟨Log.topic_of_mem (List.mem_of_getElem? hm), hzero, ?_, rfl⟩
      omega
  · cases hf

end HrPipeline.Broker
