import HrPipeline.Proofs.Consumer.Runs

/-!
# A run repeats `processNext` until a shutdown

The loop of a consumer and `processNext` are written apart. Yet a run makes the calls that
successive calls of `processNext` make, until a shutdown is requested. A message that was fetched
before is then still committed or rewound, and nothing is begun anew. `Turned` compares a turn of
the loop with the visit at its place, `Round` adds what passes after the turn, and the rest is by
induction on the rounds.
-/

namespace HrPipeline.Consumer

open HrPipeline.Broker

section

variable {σ ε : Type}

/-- A message that was left is rewound, or nothing else is done. -/
theorem settle_cases (intake : Intake σ ε) (pending : Option Inbound) (s : σ) :
    (∃ message error s', settle intake.recorded pending ⟨s, []⟩ =
        (.error error, pending, ⟨s', [.rewind message (.error error)]⟩) ∧ pending = some message) ∨
      ∃ calls s', settle intake.recorded pending ⟨s, []⟩ = (.ok (), none, ⟨s', calls⟩) ∧
        calls.length = pending.toList.length ∧
        ∀ call ∈ calls, ∃ message result, call = .rewind message result := by
  cases pending with
  | none => exact .inr ⟨[], s, rfl, rfl, by simp⟩
  | some message =>
    rcases hr : intake.rewind message s with ⟨error | _, s'⟩
    · refine .inl ⟨message, error, s', ?_, rfl⟩
      simp [settle, Recorded.after, hr]
    · refine .inr ⟨[.rewind message (.ok ())], intake.note (.rewound message.offset) s', ?_, rfl,
        ?_⟩
      · simp [settle, Recorded.after, hr]
      · simp

theorem preserves_asMoved (log : Nat → Log) (handled : Nat → ε → Except EffectError Unit)
    (halt : Halt ε) (source : Source) :
    ((memory log handled).timed halt).Preserves (AsMoved source) where
  fetch t h := by
    simp only [AsMoved, Timed.calls, Script.timed, memory, callsOf_append] at h ⊢
    cases hf : t.state.source.fetch? (log t.state.calls) with
    | none => simpa [Call.move] using h
    | some fetched =>
      obtain ⟨message, hm, rfl⟩ := Option.map_eq_some_iff.mp hf
      simp [Call.move, ← h]
  commit message t h := by
    simpa [AsMoved, Timed.calls, Script.timed, memory, Call.move] using h
  rewind message t h := by
    simp only [AsMoved, Timed.calls, Script.timed, memory, callsOf_append] at h ⊢
    simp [Call.move, ← h]
  handle event t h := by
    simpa [AsMoved, Timed.calls, Script.timed, memory, Call.move] using h
  note _ _ h := h

theorem asMoved_between (halt : Halt ε) (source : Source) (pace : Pace) (t next : Timed Memory ε)
    (hn : halt.between pace t = some next) (h : AsMoved source t) : AsMoved source next := by
  have hp : pace ≠ .stop := by
    rintro rfl
    cases hn
  rcases halt.between_cases hp t with ⟨hnone, -⟩ | ⟨-, hsame⟩ | ⟨hrest, -⟩
  · rw [hn] at hnone
    cases hnone
  · obtain rfl := Option.some.inj (hn.symm.trans hsame)
    exact h
  · obtain rfl := Option.some.inj (hn.symm.trans hrest)
    simpa [AsMoved, Timed.calls] using h

variable [DomainEvent ε]

/-- Applying a message calls the handler at most once. -/
private theorem apply_calls (intake : Intake σ ε) (message : Inbound) (r : Recorded σ ε) :
    ∃ handled, (handled = [] ∨ ∃ event result, handled = [.handle event result]) ∧
      (apply intake.recorded message r).2.calls = r.calls ++ handled := by
  unfold apply
  cases decode? ε message with
  | none => exact ⟨[], .inl rfl, by simp⟩
  | some event =>
    by_cases hh : DomainEvent.isHandled event = true
    · refine ⟨_, .inr ⟨event, (intake.handle event r.state).1, rfl⟩, ?_⟩
      rcases h : intake.handle event r.state with ⟨(_ | _) | _, s⟩ <;>
        simp [Recorded.after, hh, h]
    · exact ⟨[], .inl rfl, by simp [hh]⟩

/-- A message that is delivered is committed or rewound, and one is left only after a retry. -/
theorem receive_received (intake : Intake σ ε) (pending : Option Inbound) (s : σ) :
    Received (receive intake.recorded pending ⟨s, []⟩).1
      (receive intake.recorded pending ⟨s, []⟩).2.2.calls := by
  unfold receive
  simp only [recorded_fetch, Recorded.after, List.nil_append]
  rcases intake.fetch s with ⟨_ | error | message, s'⟩
  · exact .nothing
  · exact .failed error
  · obtain ⟨handled, hhandled, hcalls⟩ :=
      apply_calls intake message ⟨s', [.fetch (some (.ok message))]⟩
    simp only [process_eq]
    rcases happly : apply intake.recorded message ⟨s', [.fetch (some (.ok message))]⟩ with
      ⟨outcome, state, calls⟩
    rw [happly] at hcalls
    obtain rfl : calls = .fetch (some (.ok message)) :: handled := hcalls
    by_cases hr : outcome = .retry
    · rcases hc : intake.rewind message state with ⟨_ | _, s''⟩ <;>
      · simp only [if_pos hr, recorded_rewind, Recorded.after, hc, recorded_note]
        exact .done outcome hhandled ⟨_, .inr rfl⟩
    · rcases hc : intake.commit message state with ⟨_ | _, s''⟩ <;>
      · simp only [if_neg hr, recorded_commit, Recorded.after, hc, recorded_note]
        exact .done outcome hhandled ⟨_, .inl rfl⟩

/-- Only a message that is to be tried again is left to be rewound. -/
theorem receive_pending (intake : Intake σ ε) (s : σ) {outcome : Outcome}
    (h : (receive intake none s).1 = .done outcome) (hr : outcome ≠ .retry) :
    (receive intake none s).2.1 = none := by
  unfold receive at h ⊢
  rcases hf : intake.fetch s with ⟨_ | error | message, s'⟩
  · simp [hf] at h
  · simp [hf] at h
  · simp only [hf, process_eq] at h ⊢
    rcases ha : apply intake message s' with ⟨other, state⟩
    simp only [ha] at h ⊢
    by_cases ho : other = .retry
    · rcases hc : intake.rewind message state with ⟨_ | _, s''⟩ <;>
      · simp only [if_pos ho, hc, Receipt.done.injEq] at h
        exact absurd (h.symm.trans ho) hr
    · rcases intake.commit message state with ⟨_ | _, s''⟩ <;> simp only [if_neg ho]

/-- How the loop goes on after a message was asked for. -/
def Receipt.pace : Receipt → Pace
  | .nothing => .await
  | .failed _ | .done .retry => .pause
  | .done .committed | .done .duplicate | .done .skipped | .done .poison => .again

theorem Receipt.pace_ne_stop (receipt : Receipt) : receipt.pace ≠ .stop := by
  cases receipt with
  | done outcome => cases outcome <;> decide
  | nothing => decide
  | failed _ => simp [pace]

theorem Receipt.done_of_pace {receipt : Receipt} (h : receipt.pace = .again) :
    ∃ outcome, receipt = .done outcome ∧ outcome ≠ .retry := by
  cases receipt with
  | nothing => cases h
  | failed error => cases h
  | done outcome =>
    refine ⟨outcome, rfl, ?_⟩
    rintro rfl
    cases h

theorem turn_timed (script : Script σ ε) (halt : Halt ε) (pending : Option Inbound)
    (t : Timed σ ε) :
    turn (script.timed halt) pending t =
      match settle (script.timed halt) pending t with
      | (.error _, pending, t) => (.pause, pending, t)
      | (.ok (), pending, t) =>
        if halt.moment ≤ t.past.length then (.stop, pending, t)
        else
          let (receipt, pending, t) := receive (script.timed halt) pending t
          (receipt.pace, pending, t) := by
  unfold turn
  rcases settle (script.timed halt) pending t with ⟨_ | _, pending, t⟩
  · rfl
  · simp only [Script.timed, decide_eq_true_eq]
    by_cases hc : halt.moment ≤ t.past.length
    · simp only [if_pos hc]
    · simp only [if_neg hc]
      rcases receive _ pending t with ⟨_ | _ | outcome, pending, t⟩
      · rfl
      · rfl
      · cases outcome <;> rfl

/-- A turn of the loop compared with the visit at its place. -/
inductive Turned (halt : Halt ε) (pending : Option Inbound) (t : Timed σ ε)
    (visited : Visit ε × Option Inbound × σ) : Pace × Option Inbound × Timed σ ε → Prop where
  /-- The loop stops before it asks for a message. -/
  | stopped {calls : List (Call ε)} {s : σ} (same : calls <+: visited.1.calls)
      (length : calls.length = pending.toList.length)
      (rewinds : ∀ call ∈ calls, ∃ message result, call = .rewind message result)
      (requested : halt.moment ≤ t.past.length + calls.length) :
      Turned halt pending t visited (.stop, none, t.extend ⟨s, calls⟩)
  /-- The turn makes the calls of the visit. -/
  | went {pace : Pace} (goes : pace ≠ .stop) (closed : Closed visited.1.calls)
      (inTime : InTime halt.moment t.past.length (visited.1.calls.map .call))
      (some : visited.1.calls ≠ [])
      (length : t.past.length + visited.1.calls.length ≤
        max (t.past.length + pending.toList.length) (halt.moment + 2))
      (settled : pace = .again → visited.2.1 = none) :
      Turned halt pending t visited (pace, visited.2.1, t.extend ⟨visited.2.2, visited.1.calls⟩)

theorem turn_turned (script : Script σ ε) (halt : Halt ε) (pending : Option Inbound)
    (t : Timed σ ε) :
    Turned halt pending t (visit script.intake pending t.state)
      (turn (script.timed halt) pending t) := by
  have hsettle := (maps_extend script halt t).settle pending ⟨t.state, []⟩
  rw [extend_nil] at hsettle
  rw [turn_timed, hsettle]
  rcases settle_cases script.intake pending t.state with
    ⟨message, error, s', h, rfl⟩ | ⟨calls, s', h, hlength, hrewinds⟩
  · have hvisit : visit script.intake (some message) t.state =
        (⟨[.rewind message (.error error)], .failed error⟩, some message, s') := by
      simp [visit, processNext, h]
    rw [hvisit, h]
    refine .went (by simp) (.rewind .nil) ?_ (by simp) (Nat.le_max_left _ _) (by simp)
    exact .cons (fun call hc => by cases hc; trivial) (.nil _ _)
  · -- What the visit does after the rewind, with the calls of its own.
    have hreceive := (maps_resume script.intake calls).receive none ⟨s', []⟩
    rw [resume_nil] at hreceive
    have hreceived := receive_received script.intake none s'
    rcases hr : receive script.intake.recorded none ⟨s', []⟩ with ⟨receipt, left, s'', later⟩
    rw [hr] at hreceive hreceived
    replace hreceived : Received receipt later := hreceived
    have hvisit : visit script.intake pending t.state = (⟨calls ++ later, receipt⟩, left, s'') := by
      simp [visit, processNext, h, hreceive, Recorded.resume]
    rw [hvisit, h]
    simp only [Prod.map, id]
    by_cases hc : halt.moment ≤ (t.extend ⟨s', calls⟩).past.length
    · rw [if_pos hc]
      exact .stopped (List.prefix_append _ _) hlength hrewinds (by simpa [Timed.extend] using hc)
    · rw [if_neg hc, (maps_extend script halt t).receive none ⟨s', calls⟩, hreceive]
      have hlt : t.past.length + calls.length < halt.moment := by
        simpa [Timed.extend] using hc
      refine .went receipt.pace_ne_stop ?_ ?_ ?_ ?_ ?_
      · exact (Closed.of_rewinds hrewinds).append (by simpa using Closed.received hreceived .nil)
      · rw [List.map_append]
        refine (InTime.of_rewinds hrewinds).append ?_
        rw [List.length_map]
        exact hreceived.inTime hlt
      · exact fun hn => hreceived.ne_nil (List.append_eq_nil_iff.mp hn).2
      · have hthree := hreceived.length_le
        simp only [List.length_append]
        omega
      · intro hagain
        obtain ⟨outcome, rfl, hne⟩ := Receipt.done_of_pace hagain
        have hleft := receive_pending script.intake.recorded ⟨s', []⟩ (congrArg Prod.fst hr) hne
        rw [hr] at hleft
        exact hleft

/-- A round of the loop, with what passes after it, compared with the visit at its place. -/
inductive Round (script : Script σ ε) (halt : Halt ε) (pending : Option Inbound) (t : Timed σ ε)
    (first : Visit ε) (left : Option Inbound) (s : σ) : Prop where
  /-- The run ends after some calls of the visit. -/
  | last {calls : List (Call ε)} {final : Option Inbound} {s' : σ}
      (runs : ∀ rounds, loop (script.timed halt) halt.between (rounds + 1) pending t =
        (final, t.extend ⟨s', calls⟩))
      (same : calls <+: first.calls) (closed : Closed calls)
      (inTime : InTime halt.moment t.past.length (calls.map .call))
      (requested : halt.moment ≤ t.past.length + calls.length)
      (length : t.past.length + calls.length ≤
        max (t.past.length + pending.toList.length) (halt.moment + 2))
  /-- The run goes on where the visit ends. -/
  | more {rests : List (Happening ε)}
      (runs : ∀ rounds, loop (script.timed halt) halt.between (rounds + 1) pending t =
        loop (script.timed halt) halt.between rounds left
          ⟨s, (t.extend ⟨s, first.calls⟩).past ++ rests⟩)
      (quiet : callsOf rests = []) (closed : Closed first.calls)
      (inTime : InTime halt.moment t.past.length (first.calls.map .call))
      (some : first.calls ≠ [])
      (length : halt.noticed (t.extend ⟨s, first.calls⟩).past = true →
        t.past.length + pending.toList.length ≤ halt.moment + 2 →
        t.past.length + first.calls.length + rests.length + left.toList.length ≤ halt.moment + 2)

theorem round_cases (script : Script σ ε) (halt : Halt ε) (pending : Option Inbound)
    (t : Timed σ ε) {first : Visit ε} {left : Option Inbound} {s : σ}
    (hv : visit script.intake pending t.state = (first, left, s)) :
    Round script halt pending t first left s := by
  have h := turn_turned script halt pending t
  rw [hv] at h
  generalize ht : turn (script.timed halt) pending t = turned at h
  cases h with
  | @stopped calls s' same length rewinds requested =>
    have hruns : ∀ rounds, loop (script.timed halt) halt.between (rounds + 1) pending t =
        (none, t.extend ⟨s', calls⟩) := by
      intro rounds
      rw [loop, ht]
    exact .last hruns same (.of_rewinds rewinds) (.of_rewinds rewinds) requested
      (length ▸ Nat.le_max_left _ _)
  | @went pace goes closed inTime some length settled =>
    have hruns : ∀ rounds, loop (script.timed halt) halt.between (rounds + 1) pending t =
        match halt.between pace (t.extend ⟨s, first.calls⟩) with
        | none => (left, t.extend ⟨s, first.calls⟩)
        | Option.some t => loop (script.timed halt) halt.between rounds left t := by
      intro rounds
      rw [loop, ht]
      cases pace with
      | stop => exact absurd rfl goes
      | again | pause | await =>
        simp only
        cases halt.between _ (t.extend ⟨s, first.calls⟩) <;> rfl
    have hpast : (t.extend ⟨s, first.calls⟩).past.length = t.past.length + first.calls.length := by
      simp [Timed.extend]
    have hleft : left.toList.length ≤ 1 := by cases left <;> simp
    rcases halt.between_cases goes (t.extend ⟨s, first.calls⟩) with
      ⟨hnone, hrequested⟩ | ⟨rfl, hsame⟩ | ⟨hrest, hnoticed⟩
    · rw [hnone] at hruns
      exact .last hruns List.prefix_rfl closed inTime (hpast ▸ hrequested) length
    · rw [hsame] at hruns
      have hsettled : left = none := settled rfl
      have hruns' : ∀ rounds, loop (script.timed halt) halt.between (rounds + 1) pending t =
          loop (script.timed halt) halt.between rounds left
            ⟨s, (t.extend ⟨s, first.calls⟩).past ++ []⟩ := by
        simpa [Timed.extend] using hruns
      refine .more hruns' rfl closed inTime some fun _ hle => ?_
      simp only [hsettled, Option.toList_none, List.length_nil]
      simp only at length
      omega
    · rw [hrest] at hruns
      refine .more hruns rfl closed inTime some fun hn _ => ?_
      have hlt := hnoticed hn
      rw [hpast] at hlt
      simp only [List.length_singleton]
      omega

theorem loop_repeats (script : Script σ ε) (halt : Halt ε) (rounds : Nat)
    (pending : Option Inbound) (t : Timed σ ε) :
    ∃ news, Repeats halt t (visits script.intake rounds pending t.state)
      (loop (script.timed halt) halt.between rounds pending t).1
      (loop (script.timed halt) halt.between rounds pending t).2 news := by
  induction rounds generalizing pending t with
  | zero => exact ⟨[], (List.append_nil _).symm, List.nil_prefix, fun _ => ⟨rfl, rfl, rfl⟩,
      .nil _ _, .nil⟩
  | succ rounds ih =>
    rcases hv : visit script.intake pending t.state with ⟨first, left, s⟩
    have hvisits : visits script.intake (rounds + 1) pending t.state =
        let later := visits script.intake rounds left s
        (first :: later.1, later.2) := by
      simp only [visits, hv]
    rw [hvisits]
    cases round_cases script halt pending t hv with
    | last runs same closed inTime requested _ =>
      rw [runs]
      exact ⟨_, .ends (same.trans (List.prefix_append _ _)) closed inTime requested⟩
    | @more rests runs quiet closed inTime _ _ =>
      rw [runs]
      obtain ⟨news, h⟩ := ih left ⟨s, (t.extend ⟨s, first.calls⟩).past ++ rests⟩
      exact ⟨_, h.went closed inTime quiet⟩

/-- If every pause takes notice of the request, not more than one call begins after the moment. -/
theorem length_loop_le (script : Script σ ε) {halt : Halt ε} (hn : ∀ past, halt.noticed past = true)
    (rounds : Nat) (pending : Option Inbound) (t : Timed σ ε)
    (h : t.past.length + pending.toList.length ≤ halt.moment + 2) :
    (loop (script.timed halt) halt.between rounds pending t).2.past.length ≤ halt.moment + 2 := by
  induction rounds generalizing pending t with
  | zero => exact Nat.le_trans (Nat.le_add_right _ _) h
  | succ rounds ih =>
    rcases hv : visit script.intake pending t.state with ⟨first, left, s⟩
    cases round_cases script halt pending t hv with
    | last runs _ _ _ _ length =>
      rw [runs]
      simp only [Timed.extend, List.length_append, List.length_map]
      omega
    | more runs _ _ _ _ length =>
      rw [runs]
      apply ih
      have hl := length (hn _) h
      simp only [Timed.extend, List.length_append, List.length_map]
      omega

/-- If every pause takes notice of the request, the run ends by itself after some rounds. -/
theorem loop_ends (script : Script σ ε) {halt : Halt ε} (hn : ∀ past, halt.noticed past = true)
    (more rounds : Nat) (pending : Option Inbound) (t : Timed σ ε)
    (h : t.past.length + pending.toList.length ≤ halt.moment + 2)
    (henough : halt.moment + 3 ≤ t.past.length + rounds) :
    loop (script.timed halt) halt.between (rounds + more) pending t =
      loop (script.timed halt) halt.between rounds pending t := by
  induction rounds generalizing pending t with
  | zero => omega
  | succ rounds ih =>
    rw [Nat.add_right_comm]
    rcases hv : visit script.intake pending t.state with ⟨first, left, s⟩
    cases round_cases script halt pending t hv with
    | last runs _ _ _ _ _ => rw [runs, runs]
    | more runs _ _ _ some length =>
      rw [runs, runs]
      have hl := length (hn _) h
      have hpos := List.length_pos_iff.mpr some
      apply ih
      · simp only [Timed.extend, List.length_append, List.length_map]
        omega
      · simp only [Timed.extend, List.length_append, List.length_map]
        omega

section Preserving

variable {intake : Intake σ ε} {Keeps : σ → Prop} (h : intake.Preserves Keeps)
include h

theorem Intake.Preserves.turn (pending : Option Inbound) {s : σ} (hs : Keeps s) :
    Keeps (turn intake pending s).2.2 := by
  have hsettle := h.settle pending hs
  unfold Consumer.turn
  generalize Consumer.settle intake pending s = settled at hsettle ⊢
  rcases settled with ⟨_ | _, pending, s⟩
  · exact h.note _ _ hsettle
  · by_cases hc : intake.cancelled s = true
    · simpa only [if_pos hc] using hsettle
    · have hreceive := h.receive pending hsettle
      simp only [if_neg hc]
      generalize Consumer.receive intake pending s = received at hreceive ⊢
      rcases received with ⟨_ | _ | outcome, pending, s⟩
      · exact hreceive
      · exact h.note _ _ hreceive
      · cases outcome <;> exact hreceive

theorem Intake.Preserves.loop {between : Pace → σ → Option σ}
    (hb : ∀ pace s s', between pace s = some s' → Keeps s → Keeps s') (rounds : Nat)
    (pending : Option Inbound) {s : σ} (hs : Keeps s) :
    Keeps (loop intake between rounds pending s).2 := by
  induction rounds generalizing pending s with
  | zero => exact hs
  | succ rounds ih =>
    have hturn := h.turn pending hs
    unfold Consumer.loop
    generalize Consumer.turn intake pending s = turned at hturn ⊢
    rcases turned with ⟨pace, pending, s⟩
    cases pace with
    | stop => exact hturn
    | again | pause | await =>
      simp only
      cases hn : between _ s with
      | none => exact hturn
      | some s' => exact ih pending (hb _ _ _ hn hturn)

end Preserving

/-- On every source and handler, and whenever a shutdown is requested, a run repeats `processNext`.
If every pause takes notice of the request, then at most one call begins after it, and the run ends
by itself. A source in memory is where the calls have left it: a fetch that was given up has not
moved it. -/
theorem run_repeats_processNext (halt : Halt ε) (pending : Option Inbound) (rounds : Nat) :
    (∀ (σ : Type) (script : Script σ ε) (s : σ),
      Repeats halt ⟨s, []⟩ (visits script.intake rounds pending s)
          (run (script.timed halt) halt.between rounds pending ⟨s, []⟩).1
          (run (script.timed halt) halt.between rounds pending ⟨s, []⟩).2
          (run (script.timed halt) halt.between rounds pending ⟨s, []⟩).2.past ∧
        ((∀ past, halt.noticed past = true) →
          (run (script.timed halt) halt.between rounds pending ⟨s, []⟩).2.past.length ≤
              halt.moment + 2 ∧
            (halt.moment + 3 ≤ rounds → ∀ more,
              run (script.timed halt) halt.between (rounds + more) pending ⟨s, []⟩ =
                run (script.timed halt) halt.between rounds pending ⟨s, []⟩))) ∧
      ∀ log handled source, AsMoved source
        (run ((memory log handled).timed halt) halt.between rounds pending ⟨⟨source, 0⟩, []⟩).2 := by
  have hstart : 0 + pending.toList.length ≤ halt.moment + 2 := by
    cases pending <;> simp
  refine ⟨fun σ script s => ⟨?_, fun hn => ⟨?_, fun henough more => ?_⟩⟩,
    fun log handled source => ?_⟩
  · obtain ⟨news, h⟩ := loop_repeats script halt rounds pending ⟨s, []⟩
    have hpast := h.past
    rw [List.nil_append] at hpast
    exact hpast ▸ h
  · exact length_loop_le script hn rounds pending ⟨s, []⟩ hstart
  · exact loop_ends script hn more rounds pending ⟨s, []⟩ hstart (by simpa using henough)
  · exact (preserves_asMoved log handled halt source).loop (asMoved_between halt source) rounds
      pending rfl

end

/-- A message without a body, which no consumer can decode. -/
def blank : Inbound := ⟨"hr", 0, 0, none, none, []⟩

/-- A source that delivers this message once and is not able to commit it. The state counts the
calls. -/
def stubborn : Script Nat EmployeeCreated where
  fetch count := (if count = 0 then some (.ok blank) else none, count + 1)
  commit _ count := (.error (.commit "hr" 0 0 "down"), count + 1)
  rewind _ count := (.ok (), count + 1)
  handle _ count := (.ok (), count + 1)

/-- A shutdown that is requested while the message is to be committed. -/
def midway : Halt EmployeeCreated := ⟨1, fun _ => true⟩

/-- The run ends with the commit of the message. -/
theorem stubborn_repeats_processNext :
    (run (stubborn.timed midway) midway.between 4 none ⟨0, []⟩).2.past =
        [.call (.fetch (some (.ok blank))),
          .call (.commit blank (.error (.commit "hr" 0 0 "down")))] ∧
      Repeats midway ⟨0, []⟩ (visits stubborn.intake 4 none 0)
        (run (stubborn.timed midway) midway.between 4 none ⟨0, []⟩).1
        (run (stubborn.timed midway) midway.between 4 none ⟨0, []⟩).2
        (run (stubborn.timed midway) midway.between 4 none ⟨0, []⟩).2.past ∧
      (run (stubborn.timed midway) midway.between 4 none ⟨0, []⟩).2.past.length ≤ 3 ∧
      ∀ more, run (stubborn.timed midway) midway.between (4 + more) none ⟨0, []⟩ =
        run (stubborn.timed midway) midway.between 4 none ⟨0, []⟩ := by
  obtain ⟨hscripts, -⟩ := run_repeats_processNext midway none 4
  obtain ⟨hrepeats, hnoticed⟩ := hscripts Nat stubborn 0
  obtain ⟨hlength, hends⟩ := hnoticed fun _ => rfl
  exact ⟨rfl, hrepeats, hlength, hends (by decide)⟩

end HrPipeline.Consumer
