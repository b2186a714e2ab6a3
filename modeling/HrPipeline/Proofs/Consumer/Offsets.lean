import HrPipeline.Proofs.Consumer.Group

/-!
# Committed offsets of a group

A group has settled every message below the offset from which one of its consumers goes on, and
every message below its committed offset. This holds of all its consumers together, alive or
stopped: a commit raises the committed offset to where the committing consumer goes on, a new
consumer goes on from the committed offset, and nothing that is settled ceases to be so.
-/

namespace HrPipeline.Consumer

open HrPipeline.Broker HrPipeline.Scenario

/-- All messages of a topic below an offset are settled. -/
def SettledBelow (settled : Int → Prop) (bound : Int) : Prop :=
  ∀ offset, 0 ≤ offset → offset < bound → settled offset

theorem SettledBelow.mono {settled settled' : Int → Prop} {bound : Int}
    (h : SettledBelow settled bound) (hs : ∀ offset, settled offset → settled' offset) :
    SettledBelow settled' bound := fun offset h₀ h₁ => hs offset (h offset h₀ h₁)

/-- A message is one of the first so many of a topic. -/
structure InLog (topic : String) (length : Nat) (message : Inbound) : Prop where
  topic : message.topic = topic
  first : 0 ≤ message.offset
  last : message.offset < length

/-- A consumer of a group that has passed over no message. -/
structure Member.Sound (name topic : String) (settled : Int → Prop) (length : Nat)
    (member : Member) : Prop where
  reads : member.worker.source.group = name ∧ member.worker.source.topic = topic
  covered : SettledBelow settled member.resumes
  pending : ∀ message, member.worker.pending = some message → InLog topic length message
  /-- The source stands behind a message in hand, and no other is left to be rewound. -/
  inHand : ∀ message, member.stage.message? = some message → InLog topic length message ∧
    member.worker.source.position = message.offset + 1 ∧ member.worker.pending = none
  ready : member.stage = .ready → member.worker.pending = none

/-- A group whose consumers have passed over no message. -/
structure Group.Sound (name topic : String) (group : Group) : Prop where
  numbered : group.world.broker.Numbered
  nonneg : 0 ≤ group.committed name topic
  le_length : group.committed name topic ≤ group.length topic
  covered : SettledBelow group.Settled (group.committed name topic)
  members : ∀ member ∈ group.members,
    member.Sound name topic group.Settled (group.length topic)

section Advance

variable {ε : Type} [DomainEvent ε] {handle : ε → Bench → Except EffectError Unit × Bench}
  {name topic : String} {settled : Int → Prop} {length : Nat} {member : Member} {world : World}

theorem Member.Sound.mono {settled' : Int → Prop} {length' : Nat}
    (h : member.Sound name topic settled length) (hs : ∀ offset, settled offset → settled' offset)
    (hl : length ≤ length') : member.Sound name topic settled' length' := by
  have hlog {message : Inbound} (h : InLog topic length message) : InLog topic length' message :=
    ⟨h.topic, h.first, by have := h.last; omega⟩
  exact {
    reads := h.reads
    covered := h.covered.mono hs
    pending := fun message hp => hlog (h.pending message hp)
    inHand := fun message hm => ⟨hlog (h.inHand message hm).1, (h.inHand message hm).2⟩
    ready := h.ready }

/-- What is settled once a consumer has come to a stage. -/
def settledAt (settled : Int → Prop) (stage : Stage) (offset : Int) : Prop :=
  settled offset ∨ ∃ message outcome, stage.outcome? = some (message, outcome) ∧
    message.offset = offset ∧ outcome ≠ .retry

/-- A call of a consumer of a group: it stays sound, and the broker is the same unless it commits a
message below which, and with which, everything is settled. -/
structure Advanced (name topic : String) (settled : Int → Prop) (length : Nat) (world : World)
    (stage : Stage) (pending : Option Inbound) (after : Bench) : Prop where
  sound : (Member.ofBench stage pending after).Sound name topic (settledAt settled stage) length
  broker : after.world.broker = world.broker ∨
    ∃ message, InLog topic length message ∧ SettledBelow settled (message.offset + 1) ∧
      after.world.broker = world.broker.commit name message

/-- What a source fetches from a numbered log is a message of its topic. -/
theorem inLog_of_fetch? {log : Log} (hn : log.Numbered) {source moved : Source}
    {message : Inbound} (h : source.fetch? log = some (message, moved)) :
    InLog source.topic (log.topic source.topic).length message := by
  obtain ⟨htopic, -, hoffset, -⟩ := Source.fetch?_numbered hn h
  unfold Source.fetch? Source.next? at h
  split at h
  · next hp =>
    cases hm : (log.topic source.topic)[source.position.toNat]? with
    | none => simp [hm] at h
    | some found =>
      obtain ⟨hlt, -⟩ := List.getElem?_eq_some_iff.mp hm
      exact ⟨htopic, by omega, by omega⟩
  · cases h

variable {stage : Stage} {pending : Option Inbound} {after : Bench}

/-- A consumer without a message in hand goes on from the message that is left to be rewound, or
else from the position of its source. It is sound if everything below is settled. -/
private theorem sound_of_message?_eq_none (h : member.Sound name topic settled length)
    {position : Int} (hs : after.worker.source = { member.worker.source with position })
    (hc : SettledBelow settled (pending.elim position (·.offset)))
    (hp : ∀ message, pending = some message → InLog topic length message)
    (hm : stage.message? = none) (hr : stage = .ready → pending = none) :
    (Member.ofBench stage pending after).Sound name topic (settledAt settled stage) length where
  reads := by
    show after.worker.source.group = name ∧ after.worker.source.topic = topic
    rw [hs]
    exact h.reads
  covered := by
    have hposition : after.worker.source.position = position := congrArg Source.position hs
    have hresumes : (Member.ofBench stage pending after).resumes =
        pending.elim position (·.offset) := by
      rw [← hposition]
      cases stage with
      | idle | ready | finished _ => cases pending <;> rfl
      | holding _ | closing _ _ => simp [Stage.message?] at hm
    rw [hresumes]
    exact hc.mono fun _ => .inl
  pending := hp
  inHand message hmessage := by
    have hsome : stage.message? = some message := hmessage
    simp [hm] at hsome
  ready := hr

/-- A consumer with a message in hand, behind which its source stands, is sound if everything below
the offset from which it goes on is settled. -/
private theorem sound_of_message? (h : member.Sound name topic settled length)
    {message : Inbound} (hs : after.worker.source =
      { member.worker.source with position := message.offset + 1 })
    (hm : stage.message? = some message) (hlog : InLog topic length message)
    (hc : SettledBelow (settledAt settled stage) (Member.ofBench stage none after).resumes) :
    (Member.ofBench stage none after).Sound name topic (settledAt settled stage) length where
  reads := by
    show after.worker.source.group = name ∧ after.worker.source.topic = topic
    rw [hs]
    exact h.reads
  covered := hc
  pending := by
    intro _ hpending
    cases hpending
  inHand other ho := by
    obtain rfl : message = other := Option.some.inj (hm.symm.trans ho)
    exact ⟨hlog, congrArg Source.position hs, rfl⟩
  ready _ := rfl

/-- A consumer rewinds the message that is left, if there is one, and goes on from there. -/
private theorem advanced_idle (h : member.Sound name topic settled length)
    (hstage : member.stage = .idle)
    (ha : Consumer.advance (Bench.intake handle) .idle member.worker.pending
      (member.bench world) = (stage, pending, after)) :
    Advanced name topic settled length world stage pending after := by
  have hcovered := h.covered
  unfold Member.resumes at hcovered
  rw [hstage] at hcovered
  cases hp : member.worker.pending with
  | none =>
    simp only [hp, Consumer.advance, settle, Prod.mk.injEq] at ha hcovered
    obtain ⟨rfl, rfl, rfl⟩ := ha
    exact ⟨sound_of_message?_eq_none h rfl hcovered (by simp) rfl fun _ => rfl, .inl rfl⟩
  | some message =>
    rcases hw : (Bench.intake handle).rewind message (member.bench world) with ⟨result, moved⟩
    simp only [hp, Consumer.advance, settle, hw] at ha hcovered
    rcases rewind_cases hw with ⟨rfl, hsource, hbroker⟩ | ⟨⟨error, rfl⟩, hsource, hbroker⟩ <;>
      simp only [Prod.mk.injEq] at ha <;> obtain ⟨rfl, rfl, rfl⟩ := ha
    · exact ⟨sound_of_message?_eq_none h hsource hcovered (by simp) rfl fun _ => rfl,
        .inl hbroker⟩
    · exact ⟨sound_of_message?_eq_none h hsource hcovered
        (fun other ho => h.pending other (hp.trans ho)) rfl (by simp), .inl hbroker⟩

/-- A consumer fetches the message at which it goes on. -/
private theorem advanced_ready (h : member.Sound name topic settled length)
    (hstage : member.stage = .ready) (hn : world.broker.Numbered)
    (hl : (world.broker.topic topic).length = length)
    (ha : Consumer.advance (Bench.intake handle) .ready member.worker.pending
      (member.bench world) = (stage, pending, after)) :
    Advanced name topic settled length world stage pending after := by
  have hp := h.ready hstage
  have hcovered : SettledBelow settled member.worker.source.position := by
    have hcovered := h.covered
    unfold Member.resumes at hcovered
    simpa only [hstage, hp] using hcovered
  rcases hf : (Bench.intake handle).fetch (member.bench world) with ⟨result, moved⟩
  simp only [hp, Consumer.advance, hf] at ha
  rcases fetch_cases hf with ⟨hnone, hsource, hbroker⟩ | ⟨message, rfl, hfetch, hbroker⟩
  · have hquiet : ∃ receipt, stage = .finished receipt ∧ pending = none ∧ after = moved := by
      rcases result with _ | _ | message
      · simp only [Prod.mk.injEq] at ha
        exact ⟨_, ha.1.symm, ha.2.1.symm, ha.2.2.symm⟩
      · simp only [Prod.mk.injEq] at ha
        exact ⟨_, ha.1.symm, ha.2.1.symm, ha.2.2.symm⟩
      · exact absurd rfl (hnone message)
    obtain ⟨receipt, rfl, rfl, rfl⟩ := hquiet
    exact ⟨sound_of_message?_eq_none h hsource hcovered (by simp) rfl (by simp), .inl hbroker⟩
  · simp only [Prod.mk.injEq] at ha
    obtain ⟨rfl, rfl, rfl⟩ := ha
    have hlog : InLog member.worker.source.topic
        (world.broker.topic member.worker.source.topic).length message :=
      inLog_of_fetch? hn hfetch
    obtain ⟨-, -, hoffset, hmoved⟩ := Source.fetch?_numbered hn hfetch
    rw [h.reads.2, hl] at hlog
    refine ⟨sound_of_message? h hmoved rfl hlog ?_, .inl hbroker⟩
    show SettledBelow (settledAt settled _) message.offset
    rw [hoffset]
    exact hcovered.mono fun _ => .inl

/-- A consumer applies the message in hand, and then goes on from it or from the one after. -/
private theorem advanced_holding (h : member.Sound name topic settled length)
    (hh : ∀ event bench, Bench.SameSource bench (handle event bench).2) {message : Inbound}
    (hstage : member.stage = .holding message)
    (ha : Consumer.advance (Bench.intake handle) (.holding message) member.worker.pending
      (member.bench world) = (stage, pending, after)) :
    Advanced name topic settled length world stage pending after := by
  obtain ⟨hlog, hposition, hp⟩ := h.inHand message (by rw [hstage]; rfl)
  have hcovered : SettledBelow settled message.offset := by
    have hcovered := h.covered
    unfold Member.resumes at hcovered
    simpa only [hstage] using hcovered
  have hsame := sameSource_apply hh message (member.bench world)
  rcases hr : apply (Bench.intake handle) message (member.bench world) with ⟨outcome, applied⟩
  rw [hr] at hsame
  simp only [Consumer.advance, hr, hp, Prod.mk.injEq] at ha
  obtain ⟨rfl, rfl, rfl⟩ := ha
  have hsource : applied.worker.source =
      { member.worker.source with position := message.offset + 1 } := by
    rw [hsame.1, ← hposition]
    rfl
  refine ⟨sound_of_message? h hsource rfl hlog ?_, .inl hsame.2⟩
  show SettledBelow _ (if outcome = .retry then message.offset else message.offset + 1)
  intro offset hfirst hlast
  split at hlast
  · exact .inl (hcovered offset hfirst hlast)
  · next hretry =>
    by_cases hbelow : offset < message.offset
    · exact .inl (hcovered offset hfirst hbelow)
    · exact .inr ⟨message, outcome, rfl, by omega, hretry⟩

/-- A consumer rewinds the message in hand or commits it, and goes on from there either way. -/
private theorem advanced_closing (h : member.Sound name topic settled length) {message : Inbound}
    {outcome : Outcome} (hstage : member.stage = .closing message outcome)
    (ha : Consumer.advance (Bench.intake handle) (.closing message outcome) member.worker.pending
      (member.bench world) = (stage, pending, after)) :
    Advanced name topic settled length world stage pending after := by
  obtain ⟨hlog, hposition, hp⟩ := h.inHand message (by rw [hstage]; rfl)
  have hcovered := h.covered
  unfold Member.resumes at hcovered
  rw [hstage] at hcovered
  simp only [hp, Consumer.advance, close] at ha
  by_cases hretry : outcome = .retry
  · rcases hw : (Bench.intake handle).rewind message (member.bench world) with ⟨result, moved⟩
    simp only [if_pos hretry] at ha hcovered
    rw [hw] at ha
    rcases rewind_cases hw with ⟨rfl, hsource, hbroker⟩ | ⟨⟨error, rfl⟩, hsource, hbroker⟩ <;>
      simp only [Prod.mk.injEq] at ha <;> obtain ⟨rfl, rfl, rfl⟩ := ha
    · exact ⟨sound_of_message?_eq_none h hsource hcovered (by simp) rfl (by simp), .inl hbroker⟩
    · refine ⟨sound_of_message?_eq_none h hsource hcovered ?_ rfl (by simp), .inl hbroker⟩
      intro other ho
      exact Option.some.inj ho ▸ hlog
  · rcases hw : (Bench.intake handle).commit message (member.bench world) with ⟨result, done⟩
    simp only [if_neg hretry] at ha hcovered
    rw [hw] at ha
    have hbehind : SettledBelow settled member.worker.source.position := by
      rw [hposition]
      exact hcovered
    rcases commit_cases hw with ⟨rfl, hsource, hbroker⟩ | ⟨⟨error, rfl⟩, hsource, hbroker⟩ <;>
      simp only [Prod.mk.injEq] at ha <;> obtain ⟨rfl, rfl, rfl⟩ := ha
    · refine ⟨sound_of_message?_eq_none h hsource hbehind (by simp) rfl (by simp),
        .inr ⟨message, hlog, hcovered, ?_⟩⟩
      rw [hbroker]
      exact congrArg (world.broker.commit · message) h.reads.1
    · exact ⟨sound_of_message?_eq_none h hsource hbehind (by simp) rfl (by simp),
        .inl hbroker⟩

/-- Every call of a consumer of a group does no more than this. -/
theorem Member.Sound.advanced (h : member.Sound name topic settled length)
    (hh : ∀ event bench, Bench.SameSource bench (handle event bench).2)
    (hn : world.broker.Numbered) (hl : (world.broker.topic topic).length = length)
    (ha : Consumer.advance (Bench.intake handle) member.stage member.worker.pending
      (member.bench world) = (stage, pending, after)) :
    Advanced name topic settled length world stage pending after := by
  cases hstage : member.stage with
  | idle => exact advanced_idle h hstage (hstage ▸ ha)
  | ready => exact advanced_ready h hstage hn hl (hstage ▸ ha)
  | holding message => exact advanced_holding h hh hstage (hstage ▸ ha)
  | closing message outcome => exact advanced_closing h hstage (hstage ▸ ha)
  | finished receipt =>
    have hcovered := h.covered
    unfold Member.resumes at hcovered
    rw [hstage] at ha hcovered
    simp only [Consumer.advance, Prod.mk.injEq] at ha
    obtain ⟨rfl, rfl, rfl⟩ := ha
    refine ⟨sound_of_message?_eq_none h rfl ?_ h.pending rfl (by simp), .inl rfl⟩
    cases hp : member.worker.pending <;> rw [hp] at hcovered <;> exact hcovered

end Advance

namespace Group

variable {name topic : String} {group group' : Group}

/-- A change of the world that appends messages at most, and commits nothing for the group. -/
private theorem Sound.of_broker (h : group.Sound name topic) {world : World}
    (hn : world.broker.Numbered)
    (hc : world.broker.committed? name topic = group.world.broker.committed? name topic)
    (hl : group.length topic ≤ (world.broker.topic topic).length) :
    Sound name topic { group with world } ∧
      group.committed name topic ≤ committed name topic { group with world } := by
  have hsame : committed name topic { group with world } = group.committed name topic :=
    congrArg (·.getD 0) hc
  refine ⟨?_, Int.le_of_eq hsame.symm⟩
  constructor
  case numbered => exact hn
  case nonneg => rw [hsame]; exact h.nonneg
  case le_length =>
    rw [hsame]
    exact Int.le_trans h.le_length (Int.ofNat_le.mpr hl)
  case covered => rw [hsame]; exact h.covered
  case members => exact fun member hm => (h.members member hm).mono (fun _ => id) hl

/-- An appended message is one more of its topic. -/
private theorem length_append (log : Log) (topic other : String) (key payload : Option Bytes)
    (headers : List (String × Bytes)) :
    (log.topic topic).length ≤ ((log.append other key payload headers).topic topic).length := by
  rw [Log.topic_append]
  split <;> simp

/-- A broker with the same messages has the same topics. -/
private theorem topic_eq_of_messages {log log' : Log} (h : log'.messages = log.messages)
    (topic : String) : log'.topic topic = log.topic topic := by
  unfold Log.topic
  rw [h]

private theorem numbered_of_messages {log log' : Log} (h : log'.messages = log.messages)
    (hn : log.Numbered) : log'.Numbered := by
  intro topic index message hm
  rw [topic_eq_of_messages h] at hm
  exact hn topic index message hm

/-- Where the committed offset of a group stands after a call: not before where it stood, and not
beyond what is settled. -/
private theorem Sound.committed_of_advanced (h : group.Sound name topic) {stage : Stage}
    {pending : Option Inbound} {after : Bench}
    (ha : Advanced name topic group.Settled (group.length topic) group.world stage pending after) :
    after.world.broker.messages = group.world.broker.messages ∧
      ∃ offset, (after.world.broker.committed? name topic).getD 0 = offset ∧
        group.committed name topic ≤ offset ∧ offset ≤ group.length topic ∧
        SettledBelow group.Settled offset := by
  rcases ha.broker with hbroker | ⟨message, hlog, hcovered, hbroker⟩ <;> rw [hbroker]
  · exact ⟨rfl, _, rfl, Int.le_refl _, h.le_length, h.covered⟩
  · refine ⟨rfl, max (group.committed name topic) (message.offset + 1), ?_, Int.le_max_left ..,
      ?_, ?_⟩
    · rw [Log.committed?_commit, if_pos ⟨rfl, hlog.topic.symm⟩, hlog.topic]
      rfl
    · have := h.le_length
      have := hlog.last
      omega
    · intro offset hfirst hlast
      by_cases hbelow : offset < group.committed name topic
      · exact h.covered offset hfirst hbelow
      · exact hcovered offset hfirst (by omega)

/-- A call of a consumer keeps a group sound, and the committed offset does not go back. -/
private theorem Sound.advance {ε : Type} [DomainEvent ε]
    {handle : ε → Bench → Except EffectError Unit × Bench} (h : group.Sound name topic)
    (hh : ∀ event bench, Bench.SameSource bench (handle event bench).2) (index : Nat) :
    (group.advance handle index).Sound name topic ∧
      group.committed name topic ≤ (group.advance handle index).committed name topic := by
  cases hm : group.members[index]? with
  | none =>
    rw [advance_of_none hm]
    exact ⟨h, Int.le_refl _⟩
  | some member =>
    have hmember := h.members member (List.mem_of_getElem? hm)
    rcases ha : Consumer.advance (Bench.intake handle) member.stage member.worker.pending
      (member.bench group.world) with ⟨stage, pending, after⟩
    rw [advance_of_some hm ha]
    have hadvanced := hmember.advanced hh h.numbered rfl ha
    obtain ⟨hmessages, offset, hoffset, hle, hlast, hcovered⟩ := h.committed_of_advanced hadvanced
    have hlength : group.length topic = (after.world.broker.topic topic).length := by
      rw [topic_eq_of_messages hmessages]
      rfl
    have hsettled : ∀ offset, settledAt group.Settled stage offset →
        Settled ⟨after.world, group.members.set index (.ofBench stage pending after),
          group.outcomes ++ stage.outcome?.toList⟩ offset := by
      rintro offset (⟨message, outcome, hmem, hrest⟩ | ⟨message, outcome, hnew, hrest⟩)
      · exact ⟨message, outcome, List.mem_append_left _ hmem, hrest⟩
      · exact ⟨message, outcome, List.mem_append_right _ (by simp [hnew]), hrest⟩
    have hcommitted := Int.le_trans hle (Int.le_of_eq hoffset.symm)
    refine ⟨?_, hcommitted⟩
    constructor
    case numbered => exact numbered_of_messages hmessages h.numbered
    case nonneg => exact Int.le_trans h.nonneg hcommitted
    case le_length =>
      show (after.world.broker.committed? name topic).getD 0 ≤ _
      rw [hoffset]
      exact Int.le_trans hlast (Int.ofNat_le.mpr (Nat.le_of_eq hlength))
    case covered =>
      show SettledBelow _ ((after.world.broker.committed? name topic).getD 0)
      rw [hoffset]
      exact hcovered.mono fun other ho => hsettled other (.inl ho)
    case members =>
      intro other ho
      rcases List.mem_or_eq_of_mem_set ho with ho | rfl
      · exact (h.members other ho).mono (fun offset hs => hsettled offset (.inl hs))
          (Nat.le_of_eq hlength)
      · exact hadvanced.sound.mono hsettled (Nat.le_of_eq hlength)

/-- A consumer that is sound stays so whatever else of it changes than its source and its stage. -/
private theorem sound_disturbed {settled : Int → Prop} {length : Nat} {member : Member}
    (h : member.Sound name topic settled length) {worker : Worker}
    (hs : worker.source = member.worker.source) (hp : worker.pending = member.worker.pending) :
    Member.Sound name topic settled length ⟨worker, member.stage⟩ := by
  have hresumes : Member.resumes ⟨worker, member.stage⟩ = member.resumes := by
    simp only [Member.resumes, hs, hp]
  constructor
  case reads => rw [hs]; exact h.reads
  case covered => rw [hresumes]; exact h.covered
  case pending => rw [hp]; exact h.pending
  case inHand => rw [hs, hp]; exact h.inHand
  case ready => rw [hp]; exact h.ready

/-- A new consumer goes on from the committed offset. -/
private theorem Sound.subscribe (h : group.Sound name topic) {worker : Worker}
    (hs : worker.source = group.world.broker.subscribe name topic) (hp : worker.pending = none) :
    Member.Sound name topic group.Settled (group.length topic) ⟨worker, .idle⟩ := by
  have hresumes : Member.resumes ⟨worker, .idle⟩ = group.committed name topic := by
    simp only [Member.resumes, hs, hp]
    rfl
  constructor
  case reads => rw [hs]; exact ⟨rfl, rfl⟩
  case covered => rw [hresumes]; exact h.covered
  case pending => simp [hp]
  case inHand => exact fun _ hm => nomatch hm
  case ready => exact fun _ => hp

/-- Every step keeps a group sound, and the committed offset does not go back. -/
theorem Sound.step (h : group.Sound name topic) (hs : Step name topic group group') :
    group'.Sound name topic ∧ group.committed name topic ≤ group'.committed name topic := by
  cases hs with
  | advance handle hh index => exact h.advance hh index
  | subscribe worker hs hp =>
    refine ⟨{ h with members := fun member hm => ?_ }, Int.le_refl _⟩
    rcases List.mem_append.mp hm with hm | hm
    · exact h.members member hm
    · obtain rfl := List.mem_singleton.mp hm
      exact h.subscribe hs hp
  | disturb index member hm worker hs hp =>
    refine ⟨{ h with members := fun other ho => ?_ }, Int.le_refl _⟩
    rcases List.mem_or_eq_of_mem_set ho with ho | rfl
    · exact h.members other ho
    · exact sound_disturbed (h.members member (List.mem_of_getElem? hm)) hs hp
  | send message =>
    unfold World.deliver Log.send
    split
    · next broker hb =>
      split at hb
      · cases hb
        exact h.of_broker (Log.numbered_append h.numbered _ _ _ _) rfl (length_append ..)
      · cases hb
    · exact ⟨h, Int.le_refl _⟩
  | inject other key payload =>
    exact h.of_broker (Log.numbered_append h.numbered other key (some payload) []) rfl
      (length_append ..)
  | change world hm hc =>
    exact h.of_broker (numbered_of_messages hm h.numbered) hc
      (Nat.le_of_eq (congrArg List.length (topic_eq_of_messages hm topic)).symm)

theorem Starts.sound (h : group.Starts name topic) : group.Sound name topic where
  numbered := h.numbered
  nonneg := by simp [Group.committed, h.committed]
  le_length := by simp [Group.committed, h.committed]
  covered := by
    have hzero : group.committed name topic = 0 := by simp [Group.committed, h.committed]
    intro offset hfirst hlast
    omega
  members := by simp [h.members]

/-- Along a run a group stays sound, and the committed offset does not go back. -/
theorem Sound.run (h : group.Sound name topic)
    (hr : Relation.ReflTransGen (Step name topic) group group') :
    group'.Sound name topic ∧ group.committed name topic ≤ group'.committed name topic := by
  induction hr with
  | refl => exact ⟨h, Int.le_refl _⟩
  | tail _ hs ih =>
    have hstep := ih.1.step hs
    exact ⟨hstep.1, Int.le_trans ih.2 hstep.2⟩

/-- In every run of the consumers of a group, every message below the committed offset is settled,
the committed offset lies within the log and never goes back, and whoever subscribes starts at or
before every message that is not settled. -/
theorem offsets_safe {start : Group} (hstart : start.Starts name topic)
    (h : Relation.ReflTransGen (Step name topic) start group) :
    (∀ offset, 0 ≤ offset → offset < group.committed name topic → group.Settled offset) ∧
      (∀ later, Relation.ReflTransGen (Step name topic) group later →
        group.committed name topic ≤ later.committed name topic) ∧
      (0 ≤ group.committed name topic ∧ group.committed name topic ≤ group.length topic ∧
        0 ≤ group.world.broker.lag name topic) ∧
      ∀ offset, 0 ≤ offset → ¬ group.Settled offset →
        (group.world.broker.subscribe name topic).position ≤ offset := by
  obtain ⟨hsound, -⟩ := hstart.sound.run h
  refine ⟨hsound.covered, fun later hl => (hsound.run hl).2,
    ⟨hsound.nonneg, hsound.le_length, ?_⟩, ?_⟩
  · have := hsound.le_length
    unfold committed length at this
    unfold Log.lag
    omega
  · intro offset hfirst hunsettled
    by_contra hbefore
    exact hunsettled (hsound.covered offset hfirst (Int.not_le.mp hbefore))

/-- A group without consumers. -/
def unread : Group := ⟨World.start ⟨0, 0⟩ ⟨0, 0⟩ .unreachable none, [], []⟩

/-- A consumer that reads the topic from its beginning. -/
def newcomer : Worker := .new .salary ⟨"pay", "hr", 1000⟩ ⟨"pay", "hr", 0⟩ 0 0 0 0

/-- The group with two consumers, before any message. -/
def idlers : Group := { unread with members := [⟨newcomer, .idle⟩, ⟨newcomer, .idle⟩] }

/-- The group with two consumers and a message that carries nothing. -/
def pair : Group :=
  { idlers with
    world := { idlers.world with broker := idlers.world.broker.inject "hr" none [] } }

/-- A handler that applies nothing. -/
def idleHandler (_ : EmployeeCreated) (bench : Bench) : Except EffectError Unit × Bench :=
  (.ok (), bench)

/-- The second consumer has stopped with the message in hand, and the first has committed it. -/
def overtaken : Group := (advance idleHandler 0)^[4] ((advance idleHandler 1)^[2] pair)

theorem run_pair : Relation.ReflTransGen (Step "pay" "hr") unread pair := by
  have hone : Step "pay" "hr" unread { unread with members := [⟨newcomer, .idle⟩] } :=
    .subscribe newcomer rfl rfl
  have htwo : Step "pay" "hr" { unread with members := [⟨newcomer, .idle⟩] } idlers :=
    .subscribe newcomer rfl rfl
  have hmessage : Step "pay" "hr" idlers pair := .inject "hr" none []
  exact ((Relation.ReflTransGen.single hone).tail htwo).tail hmessage

/-- A consumer may make any number of calls in a row. -/
theorem run_iterate_advance (index calls : Nat) (group : Group) :
    Relation.ReflTransGen (Step name topic) group ((advance idleHandler index)^[calls] group) := by
  induction calls with
  | zero => exact .refl
  | succ calls ih =>
    rw [Function.iterate_succ_apply']
    exact ih.tail (.advance idleHandler (fun _ _ => ⟨rfl, rfl⟩) index)

/-- The first consumer has committed a message that the second one has in hand, and the committed
offset is safe. -/
theorem overtaken_offsets_safe :
    unread.Starts "pay" "hr" ∧ Relation.ReflTransGen (Step "pay" "hr") unread overtaken ∧
      overtaken.committed "pay" "hr" = 1 ∧
      ∀ offset, 0 ≤ offset → offset < overtaken.committed "pay" "hr" →
        overtaken.Settled offset := by
  have hstart : unread.Starts "pay" "hr" := ⟨Log.numbered_empty, rfl, rfl, rfl⟩
  have hrun : Relation.ReflTransGen (Step "pay" "hr") unread overtaken :=
    (run_pair.trans (run_iterate_advance 1 2 pair)).trans (run_iterate_advance 0 4 _)
  exact ⟨hstart, hrun, by decide +kernel, (offsets_safe hstart hrun).1⟩

end Group
end HrPipeline.Consumer
