import HrPipeline.Broker.Log
import HrPipeline.Consumer.Loop
import HrPipeline.Proofs.Consumer.Calls

/-!
# Runs with a shutdown

A run of a consumer on any source and handler, given as a `Script` of their results, with a request
for a shutdown. The request may come while a message is fetched or handled, while it is committed or
rewound, or in a pause: everything that a run does or waits for is a `Happening`, and a `Halt` says
during which of them the request comes. `Repeats` says how such a run relates to successive calls of
`processNext`, and how it ends.
-/

namespace HrPipeline.Consumer

open HrPipeline.Broker

/-- A source of messages and a handler by their results, with any state behind them. -/
structure Script (σ ε : Type) where
  fetch : σ → Option (Except BrokerError Inbound) × σ
  commit : Inbound → σ → Except BrokerError Unit × σ
  rewind : Inbound → σ → Except BrokerError Unit × σ
  handle : ε → σ → Except EffectError Unit × σ

/-- What happens in a run. -/
inductive Happening (ε : Type) where
  | call (call : Call ε)
  /-- What passes between two rounds. -/
  | rest (pace : Pace)

/-- The call, if it is one. -/
def Happening.call? {ε : Type} : Happening ε → Option (Call ε)
  | .call made => some made
  | .rest _ => none

/-- A state behind a script with what has happened so far. -/
structure Timed (σ ε : Type) where
  state : σ
  past : List (Happening ε)

/-- A request for a shutdown. A fetch or a pause that is under way is given up; a call of another
kind comes to its end. -/
structure Halt (ε : Type) where
  /-- How much has happened before that during which the request comes. -/
  moment : Nat
  /-- Whether a pause that begins after a past takes notice of the request. It may not if its time
  is over when the request comes, or at once. -/
  noticed : List (Happening ε) → Bool

namespace Script

variable {σ ε : Type}

/-- What is called by a consumer that is not told to shut down. -/
def intake (script : Script σ ε) : Intake σ ε where
  fetch := script.fetch
  commit := script.commit
  rewind := script.rewind
  handle := script.handle
  cancelled _ := false
  note _ s := s

/-- What is called in a run. -/
def timed (script : Script σ ε) (halt : Halt ε) : Intake (Timed σ ε) ε where
  fetch t := let (result, s) := script.fetch t.state
    (result, ⟨s, t.past ++ [.call (.fetch result)]⟩)
  commit message t := let (result, s) := script.commit message t.state
    (result, ⟨s, t.past ++ [.call (.commit message result)]⟩)
  rewind message t := let (result, s) := script.rewind message t.state
    (result, ⟨s, t.past ++ [.call (.rewind message result)]⟩)
  handle event t := let (result, s) := script.handle event t.state
    (result, ⟨s, t.past ++ [.call (.handle event result)]⟩)
  cancelled t := halt.moment ≤ t.past.length
  note _ t := t

end Script

section

variable {σ ε : Type}

/-- The calls among what happens. -/
def callsOf (happenings : List (Happening ε)) : List (Call ε) :=
  happenings.filterMap Happening.call?

@[simp] theorem callsOf_append (happenings later : List (Happening ε)) :
    callsOf (happenings ++ later) = callsOf happenings ++ callsOf later :=
  List.filterMap_append

@[simp] theorem callsOf_map (calls : List (Call ε)) : callsOf (calls.map .call) = calls := by
  unfold callsOf
  rw [List.filterMap_map]
  exact List.filterMap_some

@[simp] theorem callsOf_call (call : Call ε) : callsOf [.call call] = [call] := rfl

@[simp] theorem callsOf_rest (pace : Pace) : callsOf ([.rest pace] : List (Happening ε)) = [] := rfl

/-- The calls made so far. -/
def Timed.calls (t : Timed σ ε) : List (Call ε) := callsOf t.past

/-- What passes between two rounds of a run, or nothing if the run ends there. -/
def Halt.between (halt : Halt ε) : Pace → Timed σ ε → Option (Timed σ ε)
  | .again, t => some t
  | .pause, t =>
    if halt.moment ≤ t.past.length ∧ halt.noticed t.past = true then none
    else some { t with past := t.past ++ [.rest .pause] }
  | .await, t =>
    if halt.moment ≤ t.past.length then none
    else some { t with past := t.past ++ [.rest .await] }
  | .stop, _ => none

/-- Between two rounds nothing is called. A run that ends there was told to shut down, and a run
that was told so ends there if the request is noticed. -/
theorem Halt.between_cases (halt : Halt ε) {pace : Pace} (hp : pace ≠ .stop) (t : Timed σ ε) :
    halt.between pace t = none ∧ halt.moment ≤ t.past.length ∨
      pace = .again ∧ halt.between pace t = some t ∨
      halt.between pace t = some { t with past := t.past ++ [.rest pace] } ∧
        (halt.noticed t.past = true → t.past.length < halt.moment) := by
  cases pace with
  | again => exact .inr (.inl ⟨rfl, rfl⟩)
  | pause =>
    by_cases hc : halt.moment ≤ t.past.length ∧ halt.noticed t.past = true
    · exact .inl ⟨if_pos hc, hc.1⟩
    · exact .inr (.inr ⟨if_neg hc, fun hn => Nat.not_le.mp fun hm => hc ⟨hm, hn⟩⟩)
  | await =>
    by_cases hc : halt.moment ≤ t.past.length
    · exact .inl ⟨if_pos hc, hc⟩
    · exact .inr (.inr ⟨if_neg hc, fun _ => Nat.not_le.mp hc⟩)
  | stop => exact absurd rfl hp

/-- A state after some calls more. -/
def Timed.extend (t : Timed σ ε) (r : Recorded σ ε) : Timed σ ε :=
  ⟨r.state, t.past ++ r.calls.map .call⟩

/-- A record that is carried on. -/
def Recorded.resume (calls : List (Call ε)) (r : Recorded σ ε) : Recorded σ ε :=
  ⟨r.state, calls ++ r.calls⟩

/-- In a run the calls are those of the script. -/
theorem maps_extend (script : Script σ ε) (halt : Halt ε) (t : Timed σ ε) :
    Maps t.extend script.intake.recorded (script.timed halt) where
  fetch r := by simp [Script.timed, Script.intake, Timed.extend, Recorded.after]
  commit message r := by simp [Script.timed, Script.intake, Timed.extend, Recorded.after]
  rewind message r := by simp [Script.timed, Script.intake, Timed.extend, Recorded.after]
  handle event r := by simp [Script.timed, Script.intake, Timed.extend, Recorded.after]
  note notice r := rfl

theorem maps_resume (intake : Intake σ ε) (calls : List (Call ε)) :
    Maps (Recorded.resume calls) intake.recorded intake.recorded where
  fetch r := by simp [Recorded.resume, Recorded.after]
  commit message r := by simp [Recorded.resume, Recorded.after]
  rewind message r := by simp [Recorded.resume, Recorded.after]
  handle event r := by simp [Recorded.resume, Recorded.after]
  note notice r := rfl

theorem extend_nil (t : Timed σ ε) : t.extend ⟨t.state, []⟩ = t := by
  simp [Timed.extend]

theorem resume_nil (calls : List (Call ε)) (s : σ) :
    Recorded.resume calls ⟨s, []⟩ = ⟨s, calls⟩ := by
  simp [Recorded.resume]

/-- The calls by which a message is asked for, by what comes of that. One that is delivered is given
to the handler at most once, and then committed or rewound. -/
inductive Received : Receipt → List (Call ε) → Prop where
  | nothing : Received .nothing [.fetch none]
  | failed (error : BrokerError) : Received (.failed error) [.fetch (some (.error error))]
  | done (outcome : Outcome) {message : Inbound} {handled : List (Call ε)} {closing : Call ε}
      (handles : handled = [] ∨ ∃ event result, handled = [.handle event result])
      (closes : ∃ result, closing = .commit message result ∨ closing = .rewind message result) :
      Received (.done outcome) (.fetch (some (.ok message)) :: (handled ++ [closing]))

/-- Calls in which every message that is delivered is also committed or rewound. Before it is asked
for a message, one that was left may be rewound. -/
inductive Closed : List (Call ε) → Prop where
  | nil : Closed []
  | rewind {message : Inbound} {result : Except BrokerError Unit} {rest : List (Call ε)} :
      Closed rest → Closed (.rewind message result :: rest)
  | received {receipt : Receipt} {calls rest : List (Call ε)} :
      Received receipt calls → Closed rest → Closed (calls ++ rest)

theorem Closed.append {calls later : List (Call ε)} (h : Closed calls) (hl : Closed later) :
    Closed (calls ++ later) := by
  induction h with
  | nil => exact hl
  | rewind _ ih => exact .rewind ih
  | received hr _ ih =>
    rw [List.append_assoc]
    exact .received hr ih

theorem Closed.of_rewinds {calls : List (Call ε)}
    (h : ∀ call ∈ calls, ∃ message result, call = .rewind message result) : Closed calls := by
  induction calls with
  | nil => exact .nil
  | cons call rest ih =>
    obtain ⟨message, result, rfl⟩ := h call List.mem_cons_self
    exact .rewind (ih fun other ho => h other (List.mem_cons_of_mem _ ho))

/-- A call that begins in time, by how much has happened before it: a fetch is over before the
moment at which a shutdown is requested, and a call of the handler is not begun after it. -/
def Call.InTime (moment index : Nat) : Call ε → Prop
  | .fetch _ => index < moment
  | .handle _ _ => index ≤ moment
  | .commit _ _ | .rewind _ _ => True

/-- All calls among what happens from some time on are in time. -/
def InTime (moment start : Nat) (happenings : List (Happening ε)) : Prop :=
  ∀ (i : Nat) (call : Call ε), happenings[i]? = some (.call call) → call.InTime moment (start + i)

theorem InTime.nil (moment start : Nat) : InTime moment start ([] : List (Happening ε)) := by
  intro i call h
  simp at h

theorem InTime.cons {moment start : Nat} {first : Happening ε} {rest : List (Happening ε)}
    (hf : ∀ call, first = .call call → call.InTime moment start)
    (hr : InTime moment (start + 1) rest) : InTime moment start (first :: rest) := by
  intro i call h
  cases i with
  | zero => exact hf call (Option.some.inj h)
  | succ i =>
    rw [Nat.add_comm i 1, ← Nat.add_assoc]
    exact hr i call h

theorem InTime.append {moment start : Nat} {before later : List (Happening ε)}
    (hb : InTime moment start before) (hl : InTime moment (start + before.length) later) :
    InTime moment start (before ++ later) := by
  induction before generalizing start with
  | nil => exact hl
  | cons first rest ih =>
    refine .cons (fun call hc => hb 0 call (congrArg some hc)) (ih (fun i call hi => ?_) ?_)
    · rw [Nat.add_assoc, Nat.add_comm 1 i]
      exact hb (i + 1) call hi
    · rw [List.length_cons, Nat.add_comm rest.length 1, ← Nat.add_assoc] at hl
      exact hl

theorem InTime.of_rewinds {moment start : Nat} {calls : List (Call ε)}
    (h : ∀ call ∈ calls, ∃ message result, call = .rewind message result) :
    InTime moment start (calls.map .call) := by
  intro i call hi
  obtain ⟨made, hm, hc⟩ := List.mem_map.mp (List.mem_of_getElem? hi)
  obtain ⟨message, result, rfl⟩ := h made hm
  cases hc
  trivial

/-- A message that is asked for before the moment is handled in time. -/
theorem Received.inTime {receipt : Receipt} {calls : List (Call ε)} (h : Received receipt calls)
    {moment start : Nat} (hs : start < moment) : InTime moment start (calls.map .call) := by
  cases h with
  | nothing => exact .cons (fun call hc => by cases hc; exact hs) (.nil _ _)
  | failed error => exact .cons (fun call hc => by cases hc; exact hs) (.nil _ _)
  | @done outcome message handled closing handles closes =>
    have hhandled : InTime moment (start + 1) (handled.map .call) := by
      obtain rfl | ⟨event, answer, rfl⟩ := handles
      · exact .nil _ _
      · exact .cons (fun call hc => by cases hc; exact hs) (.nil _ _)
    have hclosing : ∀ call, Happening.call closing = .call call → ∀ index,
        call.InTime moment index := by
      rintro _ ⟨⟩ index
      obtain ⟨result, rfl | rfl⟩ := closes <;> trivial
    refine .cons (fun call hc => by cases hc; exact hs) ?_
    rw [List.map_append]
    exact hhandled.append (.cons (fun call hc => hclosing call hc _) (.nil _ _))

theorem Received.length_le {receipt : Receipt} {calls : List (Call ε)}
    (h : Received receipt calls) : calls.length ≤ 3 := by
  cases h with
  | nothing => simp
  | failed _ => simp
  | done _ handles _ => obtain rfl | ⟨event, answer, rfl⟩ := handles <;> simp

theorem Received.ne_nil {receipt : Receipt} {calls : List (Call ε)} (h : Received receipt calls) :
    calls ≠ [] := by
  cases h <;> simp

theorem InTime.of_callsOf_eq_nil {moment start : Nat} {happenings : List (Happening ε)}
    (h : callsOf happenings = []) : InTime moment start happenings := by
  intro i call hi
  have hm : call ∈ callsOf happenings :=
    List.mem_filterMap.mpr ⟨_, List.mem_of_getElem? hi, rfl⟩
  rw [h] at hm
  cases hm

/-- What a run does from a state on, compared with visits. -/
structure Repeats (halt : Halt ε) (t : Timed σ ε)
    (visited : List (Visit ε) × Option Inbound × σ) (left : Option Inbound) (final : Timed σ ε)
    (news : List (Happening ε)) : Prop where
  past : final.past = t.past ++ news
  /-- The calls are those of the visits, from the first one on. -/
  calls : callsOf news <+: visited.1.flatMap (·.calls)
  /-- They are all of them if no shutdown is requested meanwhile. -/
  complete : final.past.length < halt.moment →
    callsOf news = visited.1.flatMap (·.calls) ∧ left = visited.2.1 ∧ final.state = visited.2.2
  inTime : InTime halt.moment t.past.length news
  closed : Closed (callsOf news)

/-- A run that ends with some calls. -/
theorem Repeats.ends {halt : Halt ε} {t : Timed σ ε} {calls : List (Call ε)} {s : σ}
    {visited : List (Visit ε) × Option Inbound × σ} {left : Option Inbound}
    (same : calls <+: visited.1.flatMap (·.calls)) (closed : Closed calls)
    (inTime : InTime halt.moment t.past.length (calls.map .call))
    (requested : halt.moment ≤ t.past.length + calls.length) :
    Repeats halt t visited left (t.extend ⟨s, calls⟩) (calls.map .call) where
  past := rfl
  calls := by rwa [callsOf_map]
  complete hlt := by
    simp only [Timed.extend, List.length_append, List.length_map] at hlt
    omega
  inTime := inTime
  closed := by rwa [callsOf_map]

/-- A round more, and what passes after it. -/
theorem Repeats.went {halt : Halt ε} {t : Timed σ ε} {first : Visit ε} {s : σ}
    {rests news : List (Happening ε)} {visited : List (Visit ε) × Option Inbound × σ}
    {left : Option Inbound} {final : Timed σ ε} (hc : Closed first.calls)
    (ht : InTime halt.moment t.past.length (first.calls.map .call)) (hr : callsOf rests = [])
    (h : Repeats halt ⟨s, (t.extend ⟨s, first.calls⟩).past ++ rests⟩ visited left final news) :
    Repeats halt t (first :: visited.1, visited.2) left final
      (first.calls.map .call ++ rests ++ news) where
  past := by simp [h.past, Timed.extend]
  calls := by
    simp only [callsOf_append, callsOf_map, hr, List.append_nil, List.flatMap_cons]
    exact List.prefix_append_right_inj _ |>.mpr h.calls
  complete hlt := by
    obtain ⟨hcalls, hleft, hstate⟩ := h.complete hlt
    refine ⟨?_, hleft, hstate⟩
    simp [hr, hcalls]
  inTime := by
    refine (ht.append (.of_callsOf_eq_nil hr)).append ?_
    have hnews := h.inTime
    simp only [Timed.extend, List.length_append] at hnews
    rwa [List.length_append, ← Nat.add_assoc]
  closed := by
    simp only [callsOf_append, callsOf_map, hr, List.append_nil]
    exact hc.append h.closed

/-- The source of a consumer in memory, with the number of calls made so far. -/
structure Memory where
  source : Source
  calls : Nat

/-- A consumer that reads a broker in memory. What the broker holds and how the handler answers is
given for each call. -/
def memory (log : Nat → Log) (handled : Nat → ε → Except EffectError Unit) : Script Memory ε where
  fetch m := match m.source.fetch? (log m.calls) with
    | some (message, source) => (some (.ok message), ⟨source, m.calls + 1⟩)
    | none => (none, { m with calls := m.calls + 1 })
  commit _ m := (.ok (), { m with calls := m.calls + 1 })
  rewind message m := (.ok (), ⟨m.source.rewind message, m.calls + 1⟩)
  handle event m := (handled m.calls event, { m with calls := m.calls + 1 })

/-- What a call does to a source in memory: a message that is delivered moves it past the message,
a rewind moves it back, and nothing else moves it. -/
def Call.move (source : Source) : Call ε → Source
  | .fetch (some (.ok message)) => { source with position := message.offset + 1 }
  | .rewind message (.ok ()) => source.rewind message
  | .fetch none | .fetch (some (.error _)) | .rewind _ (.error _) | .commit _ _ | .handle _ _ =>
    source

/-- The source is where the calls so far have left it. -/
def AsMoved (source : Source) (t : Timed Memory ε) : Prop :=
  t.state.source = t.calls.foldl Call.move source

end

end HrPipeline.Consumer
