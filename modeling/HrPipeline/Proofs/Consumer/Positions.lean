import HrPipeline.Proofs.Consumer.Calls
import Mathlib.Logic.Function.Basic

/-!
# Sources with a position per partition

`Positions` views the state behind an intake as a source that reads each partition from a position
of its own. `Governs` says how the calls move the positions: a fetch delivers the message at the
position of some partition and moves on by one, a rewind goes back to its message, a commit stores
the offset after it, and every call may fail without effect. What the handler answers is left open.

`frontier` is where a consumer resumes each partition once the message left to be rewound is
rewound. A visit moves it past a message exactly if it settles that message.
-/

namespace HrPipeline.Consumer

open HrPipeline.Broker

/-- The state of a source in terms of its partitions. -/
structure Positions (σ : Type) where
  /-- The states in which the source works. -/
  Valid : σ → Prop
  /-- The messages that the source delivers. -/
  Own : Inbound → Prop
  /-- The offset that each partition delivers next. -/
  position : σ → Int → Int
  /-- The committed offset of each partition. -/
  stored : σ → Int → Int

namespace Positions

variable {σ ε : Type} (view : Positions σ)

/-- Nothing about the source has changed. -/
structure Kept (before after : σ) : Prop where
  valid : view.Valid after
  position : view.position after = view.position before
  stored : view.stored after = view.stored before

/-- The source has been set to an offset of one partition. -/
structure Moved (partition offset : Int) (before after : σ) : Prop where
  valid : view.Valid after
  position : view.position after = Function.update (view.position before) partition offset
  stored : view.stored after = view.stored before

/-- The offset after a message has been stored for its partition, or a greater one that was stored
before has been kept. -/
def StoresAfter (message : Inbound) (before after : Int → Int) : Prop :=
  ∃ offset, after = Function.update before message.partition offset ∧
    (offset = message.offset + 1 ∨ offset = max (before message.partition) (message.offset + 1))

/-- A message has been committed. -/
structure Stored (message : Inbound) (before after : σ) : Prop where
  valid : view.Valid after
  position : view.position after = view.position before
  stored : StoresAfter message (view.stored before) (view.stored after)

/-- The calls of an intake work on the source as its positions tell. -/
structure Governs (intake : Intake σ ε) : Prop where
  fetch_ok : ∀ {s s' message}, view.Valid s → intake.fetch s = (some (.ok message), s') →
    view.Own message ∧ message.offset = view.position s message.partition ∧
      view.Moved message.partition (message.offset + 1) s s'
  fetch_error : ∀ {s s' error}, view.Valid s → intake.fetch s = (some (.error error), s') →
    view.Kept s s'
  fetch_none : ∀ {s s'}, view.Valid s → intake.fetch s = (none, s') → view.Kept s s'
  commit_ok : ∀ {s s' message}, view.Valid s → view.Own message →
    intake.commit message s = (.ok (), s') → view.Stored message s s'
  commit_error : ∀ {s s' message error}, view.Valid s → view.Own message →
    intake.commit message s = (.error error, s') → view.Kept s s'
  rewind_ok : ∀ {s s' message}, view.Valid s → view.Own message →
    intake.rewind message s = (.ok (), s') → view.Moved message.partition message.offset s s'
  rewind_error : ∀ {s s' message error}, view.Valid s → view.Own message →
    intake.rewind message s = (.error error, s') → view.Kept s s'
  handle : ∀ {s s' event result}, view.Valid s → intake.handle event s = (result, s') →
    view.Kept s s'
  note : ∀ {s} notice, view.Valid s → view.Kept s (intake.note notice s)

variable {view}

theorem Kept.trans {a b c : σ} (hab : view.Kept a b) (hbc : view.Kept b c) : view.Kept a c :=
  ⟨hbc.valid, hbc.position.trans hab.position, hbc.stored.trans hab.stored⟩

variable [DomainEvent ε]

/-- Where each partition is resumed, once the message left to be rewound is rewound. -/
def frontier (view : Positions σ) (pending : Option Inbound) (s : σ) : Int → Int :=
  match pending with
  | none => view.position s
  | some message => Function.update (view.position s) message.partition message.offset

/-- What a visit does to a source with positions. -/
structure Visited (view : Positions σ) (pending : Option Inbound) (s : σ)
    (visit : Visit ε) (pending' : Option Inbound) (s' : σ) : Prop where
  valid : view.Valid s'
  own : ∀ message, pending' = some message → view.Own message
  /-- Only the message at the frontier of a partition is processed. -/
  delivered : ∀ message, visit.message? = some message →
    message.offset = view.frontier pending s message.partition
  /-- The handler gets the event of the processed message. -/
  handled : ∀ event result, Call.handle event result ∈ visit.calls →
    ∃ message, visit.message? = some message ∧ decode? ε message = some event
  /-- The frontier moves past a message exactly if the message is settled. -/
  frontier : view.frontier pending' s' =
    match visit.settled? with
    | none => view.frontier pending s
    | some message =>
      Function.update (view.frontier pending s) message.partition (message.offset + 1)
  /-- Exactly the settled message is to be committed. -/
  commits : visit.commits = visit.settled?.toList
  /-- A commit that goes through stores the offset after its message, and nothing else does. -/
  stored : (∃ message, .commit message (.ok ()) ∈ visit.calls ∧
      StoresAfter message (view.stored s) (view.stored s')) ∨
    (∀ message, .commit message (.ok ()) ∉ visit.calls) ∧ view.stored s' = view.stored s

section Steps

variable {intake : Intake σ ε}

/-- Applying a message calls at most the handler, with the event of the message. -/
theorem Governs.apply (laws : view.Governs intake) {message : Inbound}
    {r r' : Recorded σ ε} {outcome : Outcome} (hv : view.Valid r.state)
    (h : apply intake.recorded message r = (outcome, r')) :
    view.Kept r.state r'.state ∧ ∃ handled, r'.calls = r.calls ++ handled ∧
      ∀ call ∈ handled, ∃ event result, call = .handle event result ∧
        decode? ε message = some event := by
  unfold Consumer.apply at h
  cases hd : decode? ε message with
  | none =>
    simp only [hd, recorded_note, Prod.mk.injEq] at h
    obtain ⟨-, rfl⟩ := h
    exact ⟨laws.note _ hv, [], by simp⟩
  | some event =>
    simp only [hd] at h
    split at h
    · rcases hh : intake.handle event r.state with ⟨result, s⟩
      have hk := laws.handle hv hh
      simp only [recorded_handle, Recorded.after, hh, recorded_note] at h
      refine ⟨?_, [.handle event result], ?_, by simp⟩ <;>
        rcases result with (_ | _) | _ <;>
        simp only [Prod.mk.injEq] at h <;> obtain ⟨-, rfl⟩ := h
      all_goals first | exact hk.trans (laws.note _ hk.valid) | rfl
    · simp only [recorded_note, Prod.mk.injEq] at h
      obtain ⟨-, rfl⟩ := h
      exact ⟨laws.note _ hv, [], by simp⟩

/-- The call that ends the processing of a message. -/
private def lastCall (outcome : Outcome) (message : Inbound) (result : Except BrokerError Unit) :
    Call ε :=
  if outcome = .retry then .rewind message result else .commit message result

/-- The calls of a visit that processes a message: rewinds, the fetch, the handler and last a rewind
or a commit. -/
private structure Transcript (message : Inbound) (outcome : Outcome)
    (result : Except BrokerError Unit) (calls : List (Call ε)) : Prop where
  split : ∃ before handled,
    calls = before ++ .fetch (some (.ok message)) :: (handled ++ [lastCall outcome message result]) ∧
    (∀ call ∈ before, ∃ message result, call = .rewind message result) ∧
    ∀ call ∈ handled, ∃ event result, call = .handle event result ∧
      decode? ε message = some event

variable {message : Inbound} {outcome : Outcome} {result : Except BrokerError Unit}
  {calls : List (Call ε)}

private theorem Transcript.message? (h : Transcript message outcome result calls) :
    calls.findSome? Visit.delivered? = some message := by
  obtain ⟨before, handled, rfl, hb, -⟩ := h.split
  have hn : before.findSome? Visit.delivered? = none := by
    rw [List.findSome?_eq_none_iff]
    intro call hc
    obtain ⟨_, _, rfl⟩ := hb call hc
    rfl
  have hf : Visit.delivered? (.fetch (some (.ok message)) : Call ε) = some message := rfl
  simp [List.findSome?_append, hn, hf]

private theorem Transcript.commits (h : Transcript message outcome result calls) :
    calls.filterMap Visit.committed? = if outcome = .retry then [] else [message] := by
  obtain ⟨before, handled, rfl, hb, hh⟩ := h.split
  have hbn : before.filterMap Visit.committed? = [] := by
    rw [List.filterMap_eq_nil_iff]
    intro call hc
    obtain ⟨_, _, rfl⟩ := hb call hc
    rfl
  have hhn : handled.filterMap Visit.committed? = [] := by
    rw [List.filterMap_eq_nil_iff]
    intro call hc
    obtain ⟨_, _, rfl, -⟩ := hh call hc
    rfl
  have hf : Visit.committed? (.fetch (some (.ok message)) : Call ε) = none := rfl
  by_cases hr : outcome = .retry
  · have hl : Visit.committed? (lastCall outcome message result : Call ε) = none := by
      rw [lastCall, if_pos hr]
      rfl
    rw [if_pos hr]
    simp [hbn, hhn, hf, hl]
  · have hl : Visit.committed? (lastCall outcome message result : Call ε) = some message := by
      rw [lastCall, if_neg hr]
      rfl
    rw [if_neg hr]
    simp [hbn, hhn, hf, hl]

private theorem Transcript.mem (h : Transcript message outcome result calls) {call : Call ε}
    (hc : call ∈ calls) :
    (∃ message result, call = .rewind message result) ∨ call = .fetch (some (.ok message)) ∨
      (∃ event result, call = .handle event result ∧ decode? ε message = some event) ∨
      outcome ≠ .retry ∧ call = .commit message result := by
  obtain ⟨before, handled, rfl, hb, hh⟩ := h.split
  simp only [List.mem_append, List.mem_cons, List.not_mem_nil, or_false] at hc
  rcases hc with hc | rfl | hc | rfl
  · exact .inl (hb call hc)
  · exact .inr (.inl rfl)
  · exact .inr (.inr (.inl (hh call hc)))
  · unfold lastCall
    split
    · exact .inl ⟨message, result, rfl⟩
    · next hr => exact .inr (.inr (.inr ⟨hr, rfl⟩))

/-- A visit that processes a message, told from its calls and from what they leave behind. -/
private theorem Transcript.visited (h : Transcript message outcome result calls) {s s' : σ}
    {pending : Option Inbound} (hv : view.Valid s')
    (ho : message.offset = view.position s message.partition)
    (hp : ∀ message, pending = some message → view.Own message)
    (hf : view.frontier pending s' =
      if outcome = .retry then view.position s
      else Function.update (view.position s) message.partition (message.offset + 1))
    (hs : (outcome ≠ .retry ∧ result = .ok ()) ∧
        StoresAfter message (view.stored s) (view.stored s') ∨
      ¬(outcome ≠ .retry ∧ result = .ok ()) ∧ view.stored s' = view.stored s) :
    view.Visited none s ⟨calls, .done outcome⟩ pending s' where
  valid := hv
  own := hp
  delivered m hm := by
    obtain rfl : message = m := Option.some.inj (h.message?.symm.trans hm)
    exact ho
  handled event answer hc := by
    refine ⟨message, h.message?, ?_⟩
    rcases h.mem hc with ⟨_, _, he⟩ | he | ⟨_, _, he, hd⟩ | ⟨-, he⟩
    · cases he
    · cases he
    · cases he
      exact hd
    · cases he
  frontier := by
    rw [hf]
    by_cases hr : outcome = .retry
    · simp [Visit.settled?, hr, frontier]
    · simp [Visit.settled?, Visit.message?, hr, h.message?, frontier]
  commits := by
    rw [Visit.commits, h.commits]
    by_cases hr : outcome = .retry <;> simp [Visit.settled?, Visit.message?, hr, h.message?]
  stored := by
    rcases hs with ⟨⟨hr, rfl⟩, hs⟩ | ⟨hc, hs⟩
    · obtain ⟨before, handled, rfl, -, -⟩ := h.split
      exact .inl ⟨message, by simp [lastCall, hr], hs⟩
    · refine .inr ⟨?_, hs⟩
      intro m hm
      rcases h.mem hm with ⟨_, _, he⟩ | he | ⟨_, _, he, -⟩ | ⟨hr, he⟩
      · cases he
      · cases he
      · cases he
      · cases he
        exact hc ⟨hr, rfl⟩

/-- A visit that gets no message leaves everything as it was. -/
private theorem Kept.visited {s s' : σ} {pending : Option Inbound} {receipt : Receipt}
    (hk : view.Kept s s') (hp : ∀ message, pending = some message → view.Own message)
    (hr : ∀ outcome, receipt ≠ .done outcome)
    (hc : ∀ call ∈ calls, (∃ message result, call = .rewind message result) ∨
      ∃ result, call = .fetch result ∧ Visit.delivered? call = none) :
    view.Visited pending s (⟨calls, receipt⟩ : Visit ε) pending s' := by
  have hm : calls.findSome? Visit.delivered? = none := by
    rw [List.findSome?_eq_none_iff]
    intro call hcall
    rcases hc call hcall with ⟨_, _, rfl⟩ | ⟨_, rfl, hd⟩
    · rfl
    · exact hd
  have hs : (⟨calls, receipt⟩ : Visit ε).settled? = none := by
    cases receipt with
    | nothing => rfl
    | failed error => rfl
    | done outcome => exact absurd rfl (hr outcome)
  constructor
  case valid => exact hk.valid
  case own => exact hp
  case delivered =>
    intro m h
    rw [Visit.message?, hm] at h
    cases h
  case handled =>
    intro event result h
    rcases hc _ h with ⟨_, _, he⟩ | ⟨_, he, -⟩ <;> cases he
  case frontier =>
    rw [hs]
    cases pending with
    | none => exact hk.position
    | some m => simp only [frontier, hk.position]
  case commits =>
    rw [hs, Option.toList_none, Visit.commits, List.filterMap_eq_nil_iff]
    intro call hcall
    rcases hc call hcall with ⟨_, _, rfl⟩ | ⟨_, rfl, -⟩ <;> rfl
  case stored =>
    refine .inr ⟨?_, hk.stored⟩
    intro m h
    rcases hc _ h with ⟨_, _, he⟩ | ⟨_, he, -⟩ <;> cases he

/-- Processing a message after it was fetched at its position. -/
private theorem Governs.process_visited (laws : view.Governs intake) {s : σ}
    {before : List (Call ε)} {fetched r : Recorded σ ε} {pending : Option Inbound}
    (ho : view.Own message) (hp : message.offset = view.position s message.partition)
    (hf : view.Moved message.partition (message.offset + 1) s fetched.state)
    (hb : ∀ call ∈ before, ∃ message result, call = .rewind message result)
    (hc : fetched.calls = before ++ [.fetch (some (.ok message))])
    (h : process intake.recorded message none fetched = (outcome, pending, r)) :
    view.Visited none s ⟨r.calls, .done outcome⟩ pending r.state := by
  rw [process_eq] at h
  rcases ha : Consumer.apply intake.recorded message fetched with ⟨answer, applied⟩
  obtain ⟨hk, handled, hcalls, hh⟩ := laws.apply hf.valid ha
  have hpos : view.position applied.state =
      Function.update (view.position s) message.partition (message.offset + 1) :=
    hk.position.trans hf.position
  have hst : view.stored applied.state = view.stored s := hk.stored.trans hf.stored
  -- What was called before the last call, the same in all the cases.
  have hsplit : ∀ result : Except BrokerError Unit, ∀ calls : List (Call ε),
      calls = applied.calls ++ [lastCall answer message result] →
      Transcript message answer result calls := by
    intro result calls hl
    refine ⟨before, handled, ?_, hb, hh⟩
    rw [hl, hcalls, hc]
    simp
  simp only [ha] at h
  by_cases hr : answer = .retry
  · rw [if_pos hr] at h
    have hl : ∀ result, (.rewind message result : Call ε) = lastCall answer message result := by
      intro result
      rw [lastCall, if_pos hr]
    simp only [recorded_rewind, Recorded.after] at h
    cases hw : intake.rewind message applied.state with
    | mk result s' =>
      cases result with
      | ok _ =>
        have hm := laws.rewind_ok hk.valid ho hw
        simp only [hw, Prod.mk.injEq] at h
        obtain ⟨rfl, rfl, rfl⟩ := h
        refine (hsplit (.ok ()) _ (by rw [← hl])).visited hm.valid hp (by simp) ?_
          (.inr ⟨by simp [hr], hm.stored.trans hst⟩)
        rw [if_pos hr, frontier, hm.position, hpos, Function.update_idem, hp,
          Function.update_eq_self]
      | error error =>
        have hm := laws.rewind_error hk.valid ho hw
        have hn := hm.trans (laws.note .rewindFailed hm.valid)
        simp only [hw, recorded_note, Prod.mk.injEq] at h
        obtain ⟨rfl, rfl, rfl⟩ := h
        refine (hsplit (.error error) _ (by rw [← hl])).visited hn.valid hp ?_ ?_
          (.inr ⟨by simp [hr], hn.stored.trans hst⟩)
        · intro m he
          obtain rfl := Option.some.inj he
          exact ho
        · rw [if_pos hr, frontier, hn.position, hpos, Function.update_idem, hp,
            Function.update_eq_self]
  · rw [if_neg hr] at h
    have hl : ∀ result, (.commit message result : Call ε) = lastCall answer message result := by
      intro result
      rw [lastCall, if_neg hr]
    simp only [recorded_commit, Recorded.after] at h
    cases hw : intake.commit message applied.state with
    | mk result s' =>
      cases result with
      | ok _ =>
        have hm := laws.commit_ok hk.valid ho hw
        simp only [hw, Prod.mk.injEq] at h
        obtain ⟨rfl, rfl, rfl⟩ := h
        refine (hsplit (.ok ()) _ (by rw [← hl])).visited hm.valid hp (by simp) ?_
          (.inl ⟨⟨hr, rfl⟩, hst ▸ hm.stored⟩)
        rw [if_neg hr, frontier, hm.position, hpos]
      | error error =>
        have hm := laws.commit_error hk.valid ho hw
        have hn := hm.trans (laws.note .commitFailed hm.valid)
        simp only [hw, recorded_note, Prod.mk.injEq] at h
        obtain ⟨rfl, rfl, rfl⟩ := h
        refine (hsplit (.error error) _ (by rw [← hl])).visited hn.valid hp (by simp) ?_
          (.inr ⟨by simp, hn.stored.trans hst⟩)
        rw [if_neg hr, frontier, hn.position, hpos]

/-- Fetching and processing a message when none is left to be rewound. -/
private theorem Governs.receive_visited (laws : view.Governs intake) {r r' : Recorded σ ε}
    {receipt : Receipt} {pending : Option Inbound} (hv : view.Valid r.state)
    (hb : ∀ call ∈ r.calls, ∃ message result, call = .rewind message result)
    (h : receive intake.recorded none r = (receipt, pending, r')) :
    view.Visited none r.state ⟨r'.calls, receipt⟩ pending r'.state := by
  have hidle : ∀ {s' : σ} {result : Option (Except BrokerError Inbound)} {receipt : Receipt},
      view.Kept r.state s' → Visit.delivered? (.fetch result : Call ε) = none →
      (∀ outcome, receipt ≠ .done outcome) →
      view.Visited none r.state ⟨r.calls ++ [.fetch result], receipt⟩ none s' := by
    intro s' result receipt hk hd hr
    refine hk.visited (by simp) hr ?_
    intro call hcall
    rcases List.mem_append.mp hcall with hcall | hcall
    · exact .inl (hb call hcall)
    · obtain rfl := List.mem_singleton.mp hcall
      exact .inr ⟨result, rfl, hd⟩
  unfold receive at h
  simp only [recorded_fetch, Recorded.after] at h
  rcases hf : intake.fetch r.state with ⟨_ | error | message, s'⟩
  · simp only [hf, Prod.mk.injEq] at h
    obtain ⟨rfl, rfl, rfl⟩ := h
    exact hidle (laws.fetch_none hv hf) rfl (by simp)
  · simp only [hf, Prod.mk.injEq] at h
    obtain ⟨rfl, rfl, rfl⟩ := h
    exact hidle (laws.fetch_error hv hf) rfl (by simp)
  · obtain ⟨ho, hp, hm⟩ := laws.fetch_ok hv hf
    simp only [hf, Prod.mk.injEq] at h
    obtain ⟨rfl, rfl, rfl⟩ := h
    exact laws.process_visited ho hp hm hb rfl rfl

/-- Every visit moves the frontier past exactly the message that it settles. -/
theorem Governs.visit_visited (laws : view.Governs intake) {s s' : σ}
    {pending pending' : Option Inbound} {v : Visit ε} (hv : view.Valid s)
    (hp : ∀ message, pending = some message → view.Own message)
    (h : visit intake pending s = (v, pending', s')) :
    view.Visited pending s v pending' s' := by
  unfold visit at h
  rcases hn : processNext intake.recorded pending ⟨s, []⟩ with ⟨receipt, left, r⟩
  simp only [hn, Prod.mk.injEq] at h
  obtain ⟨rfl, rfl, rfl⟩ := h
  cases pending with
  | none => exact laws.receive_visited (r := ⟨s, []⟩) hv (by simp) hn
  | some message =>
    have ho := hp message rfl
    simp only [processNext, settle, recorded_rewind, Recorded.after] at hn
    cases hw : intake.rewind message s with
    | mk result s' =>
      cases result with
      | ok _ =>
        have hm := laws.rewind_ok hv ho hw
        have hk := laws.note (.rewound message.offset) hm.valid
        simp only [hw, recorded_note] at hn
        have hr := laws.receive_visited (r := ⟨_, _⟩) hk.valid (by simp) hn
        have hfrontier : view.frontier none (intake.note (.rewound message.offset) s') =
            view.frontier (some message) s := hk.position.trans hm.position
        exact {
          valid := hr.valid
          own := hr.own
          delivered := hfrontier ▸ hr.delivered
          handled := hr.handled
          frontier := hfrontier ▸ hr.frontier
          commits := hr.commits
          stored := hk.stored.trans hm.stored ▸ hr.stored }
      | error error =>
        have hk := laws.rewind_error hv ho hw
        simp only [hw, Prod.mk.injEq] at hn
        obtain ⟨rfl, rfl, rfl⟩ := hn
        refine hk.visited hp (by simp) ?_
        intro call hcall
        obtain rfl := List.mem_singleton.mp hcall
        exact .inl ⟨_, _, rfl⟩

end Steps

end Positions
end HrPipeline.Consumer
