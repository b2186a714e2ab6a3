import HrPipeline.Proofs.Database.Responses
import Mathlib.Data.List.Induction

/-!
# Claims after an acceptance

Once an acceptance is recorded for an identifier, a database never yields a row with it again: the
identifiers are keys of the table. A store in memory has no keys. It takes the same identifier as
often as it is committed, and records an attempt on the first row with it only. So the later rows
stay as they were committed, whatever is recorded, and `Lags` says that they are all that is left to
claim.
-/

namespace HrPipeline

open HrPipeline.Calendar HrPipeline.Outbox

namespace Outbox

/-- The drafts that a transaction committed: those that were enlisted, if it took effect. -/
def Record.committed (record : Record) : List Draft :=
  match record.operation, record.answer with
  | .transact drafts _, .enlisted results true =>
    (drafts.zip results).filterMap fun enlisting =>
      if enlisting.2.isOk then some enlisting.1 else none
  | _, _ => []

/-- The drafts under an identifier that were committed in a history, in order. -/
def committedUnder (id : Uuid) (history : List Record) : List Draft :=
  (history.flatMap Record.committed).filter (·.id = id)

/-- A row is as it was committed. -/
def Draft.IsNew (draft : Draft) (row : Row) : Prop := ∃ now, row = Row.ofDraft draft now

/-- The rows under an identifier are those of some drafts, and all but the first one are as they
were committed. -/
inductive Lags : List Draft → List Row → Prop where
  | none : Lags [] []
  | some (draft : Draft) {drafts : List Draft} (row : Row) {rows : List Row}
      (h : List.Forall₂ Draft.IsNew drafts rows) : Lags (draft :: drafts) (row :: rows)

/-- What an operation on a store in memory does to the rows under an identifier. -/
inductive Store.Moves (record : Record) (id : Uuid) : List Row → List Row → Prop where
  /-- It appends those that it commits, if any. -/
  | grows {rows added : List Row} (unsent : ¬ record.Sends id)
      (hadded : List.Forall₂ Draft.IsNew (record.committed.filter (·.id = id)) added) :
      Moves record id rows (rows ++ added)
  /-- It changes the first one. -/
  | marks {row changed : Row} {rest : List Row} (hnothing : record.committed = [])
      (hsent : row.status = .sent ∨ record.Sends id → changed.status = .sent) :
      Moves record id (row :: rest) (changed :: rest)

variable {id : Uuid} {now : Instant}

theorem committedUnder_concat (id : Uuid) (history : List Record) (record : Record) :
    committedUnder id (history ++ [record]) =
      committedUnder id history ++ record.committed.filter (·.id = id) := by
  simp [committedUnder]

/-- Of the drafts that are staged in memory, those that pass their checks are committed. -/
theorem committed_checked (drafts : List Draft) :
    ((drafts.zip (drafts.map Draft.check)).filterMap fun enlisting =>
      if enlisting.2.isOk then some enlisting.1 else none) = drafts.filter (·.isAccepted) := by
  induction drafts with
  | nil => rfl
  | cons draft drafts ih =>
    rw [List.map_cons, List.zip_cons_cons, List.filterMap_cons, ih, List.filter_cons]
    unfold Draft.isAccepted
    cases draft.check.isOk <;> simp

/-- A transaction appends new rows of what it commits. -/
theorem Lags.append {drafts added : List Draft} {rows new : List Row} (h : Lags drafts rows)
    (hnew : List.Forall₂ Draft.IsNew added new) : Lags (drafts ++ added) (rows ++ new) := by
  cases h with
  | none =>
    cases hnew with
    | nil => exact .none
    | cons hrow hrest => exact .some _ _ hrest
  | some draft row h => exact .some draft row (List.rel_append h hnew)

/-- One operation keeps the later rows as they were committed. -/
theorem Lags.moves {record : Record} {drafts : List Draft} {rows rows' : List Row}
    (h : Lags drafts rows) (hm : Store.Moves record id rows rows') :
    Lags (drafts ++ record.committed.filter (·.id = id)) rows' := by
  cases hm with
  | grows unsent hadded => exact h.append hadded
  | marks hnothing hsent =>
    rw [hnothing, List.filter_nil, List.append_nil]
    cases h with
    | some draft row h => exact .some draft _ h

/-- A row as it was committed is eligible if it is not sent already and the store tries rows. -/
theorem Draft.IsNew.isEligible_iff {draft : Draft} {row : Row} (h : draft.IsNew row)
    (ceiling : Option Int) (now : Instant) :
    row.isEligible ceiling now = true ↔
      draft.status ≠ .sent ∧ 0 < ceiling.getD maxRetryCount := by
  obtain ⟨created, rfl⟩ := h
  show (decide (draft.status ≠ .sent) && true && decide (0 < ceiling.getD maxRetryCount)) = true ↔ _
  rw [Bool.and_true, Bool.and_eq_true, decide_eq_true_iff, decide_eq_true_iff]

namespace Store

variable {store : Store}

/-- A row is claimed at some time, if as many rows as there are are claimed, exactly if it is
eligible then. -/
theorem exists_claim_iff (id : Uuid) (now : Instant) :
    (∃ limit, id ∈ (store.claim limit now).map (·.id)) ↔
      ∃ row ∈ store.rows.filter (·.id = id), row.isEligible store.maxAttempts now = true := by
  constructor
  · rintro ⟨limit, hm⟩
    obtain ⟨row, hrow, rfl⟩ := List.mem_map.mp hm
    obtain ⟨hstored, heligible⟩ := mem_claim hrow
    exact ⟨row, List.mem_filter.mpr ⟨hstored, by simp⟩, heligible⟩
  · rintro ⟨row, hrow, heligible⟩
    obtain ⟨hstored, hid⟩ := List.mem_filter.mp hrow
    have hclaimed : row ∈ store.claim store.rows.length now :=
      (mem_claim_iff (Int.le_refl _) now row).mpr ⟨hstored, heligible⟩
    exact ⟨store.rows.length, List.mem_map.mpr ⟨row, hclaimed, of_decide_eq_true hid⟩⟩

/-- An operation that commits nothing and records no acceptance may leave all rows as they are. -/
theorem moves_self {record : Record} (rows : List Row) (hnothing : record.committed = [])
    (unsent : ¬ record.Sends id) : Moves record id rows rows := by
  have hgrows : Moves record id rows (rows ++ []) := by
    refine .grows unsent ?_
    rw [hnothing]
    exact .nil
  rwa [List.append_nil] at hgrows

/-- What an operation does to a store in memory: it moves the rows under every identifier. -/
def Performs (store : Store) (entry : Entry) : Prop :=
  ∃ store', ((Storage.memory store).perform entry).2 = .memory store' ∧
    store'.maxAttempts = store.maxAttempts ∧
    ∀ id, Moves ((Storage.memory store).record entry) id
      (store.rows.filter (·.id = id)) (store'.rows.filter (·.id = id))

/-- An operation that leaves the store as it is, and is not the record of an acceptance. -/
theorem performs_quiet {entry : Entry} {answer : Answer}
    (hp : (Storage.memory store).perform entry = (answer, .memory store))
    (hnothing : Record.committed ⟨entry, answer⟩ = [])
    (hsends : ∀ id, entry.operation ≠ .markSent id) : store.Performs entry := by
  unfold Performs
  rw [Storage.record, hp]
  exact ⟨store, rfl, rfl, fun id => moves_self _ hnothing fun hs => hsends id hs.1⟩

/-- The record of an attempt, which changes the first row with the identifier or nothing. -/
theorem performs_recorded {entry : Entry} (other : Uuid) {change : Row → Row}
    (hid : ∀ row, (change row).id = row.id)
    (hp : (Storage.memory store).perform entry =
      match store.update other change with
      | .ok after => (.recorded (.ok ()), .memory after)
      | .error error => (.recorded (.error error), .memory store))
    (htransact : ∀ drafts commits, entry.operation ≠ .transact drafts commits)
    (hsends : ∀ id, entry.operation = .markSent id → id = other)
    (hsent : entry.operation = .markSent other → ∀ row, (change row).status = .sent)
    (hkept : ∀ row, row.status = .sent → (change row).status = .sent) : store.Performs entry := by
  have hnothing : ∀ answer, Record.committed ⟨entry, answer⟩ = [] := by
    intro answer
    unfold Record.committed
    split
    · next hop _ => exact absurd hop (htransact _ _)
    · rfl
  unfold Performs
  rw [Storage.record, hp]
  unfold update
  cases hu : updateFirst (·.id = other) change store.rows with
  | none => exact ⟨store, rfl, rfl, fun id => moves_self _ (hnothing _) (by rintro ⟨-, ⟨⟩⟩)⟩
  | some rows =>
    refine ⟨{ store with rows }, rfl, rfl, fun id => ?_⟩
    obtain ⟨⟨row, rest, hbefore, hafter⟩, hsame⟩ := filter_updateFirst hid hu
    by_cases ho : id = other
    · subst ho
      rw [hbefore, hafter]
      exact .marks (hnothing _) fun h => h.elim (hkept row) fun hs => hsent hs.1 row
    · rw [hsame id ho]
      exact moves_self _ (hnothing _) fun hs => ho (hsends id hs.1)

/-- A transaction appends the rows of the drafts that pass their checks, or nothing. -/
theorem performs_transact (store : Store) (drafts : List Draft) (commits : Bool)
    (now databaseNow : Instant) :
    store.Performs ⟨.transact drafts commits, now, databaseNow⟩ := by
  have hp : (Storage.memory store).perform ⟨.transact drafts commits, now, databaseNow⟩ =
      (.enlisted (drafts.map Draft.check) commits,
        .memory (if commits then store.commit ⟨drafts.filter (·.isAccepted)⟩ now else store)) := by
    simp only [Storage.perform, Storage.transact, enlistEach_attempt]
    rfl
  cases commits with
  | false => exact performs_quiet hp rfl (by simp)
  | true =>
    refine ⟨store.commit ⟨drafts.filter (·.isAccepted)⟩ now, by rw [hp]; rfl, rfl, fun id => ?_⟩
    rw [rows_commit, List.filter_append, List.filter_map, Storage.record, hp]
    refine .grows (by rintro ⟨⟨⟩, -⟩) ?_
    show List.Forall₂ Draft.IsNew (((drafts.zip (drafts.map Draft.check)).filterMap _).filter _) _
    rw [committed_checked, List.forall₂_map_right_iff]
    exact List.forall₂_same.mpr fun draft _ => ⟨now, rfl⟩

/-- Every operation on a store in memory is one of these moves. -/
theorem performs (store : Store) (entry : Entry) : store.Performs entry := by
  obtain ⟨operation, now, databaseNow⟩ := entry
  cases operation with
  | transact drafts commits => exact store.performs_transact drafts commits now databaseNow
  | claim limit =>
    exact performs_quiet (Storage.perform_claim_memory store limit now databaseNow) rfl (by simp)
  | markSent other =>
    refine performs_recorded other (Row.markSent_id now) ?_ (by simp)
      (fun id hop => (Operation.markSent.inj hop).symm) (fun _ => Row.markSent_status now)
      fun row _ => Row.markSent_status now row
    simp only [Storage.perform, Storage.markSent, Store.markSent]
    cases store.update other _ <;> rfl
  | markFailed other reason =>
    refine performs_recorded other (Row.markFailed_id now reason) ?_ (by simp) (by simp)
      (by simp) fun row hs => (Row.markFailed_status_iff row now reason).mpr hs
    simp only [Storage.perform, Storage.markFailed, Store.markFailed]
    cases store.update other _ <;> rfl
  | get other => exact performs_quiet rfl rfl (by simp)

end Store
end Outbox

namespace Storage

variable {id : Uuid}

/-- A store in memory remains one, and under every identifier all rows but the first one are as they
were committed. -/
theorem lags_memory (ceiling : Option Int) (script : List Entry) (id : Uuid) :
    ∃ rows, (Storage.memory ⟨[], ceiling⟩).after script = .memory ⟨rows, ceiling⟩ ∧
      Lags (committedUnder id ((Storage.memory ⟨[], ceiling⟩).history script))
        (rows.filter (·.id = id)) := by
  induction script using List.reverseRecOn with
  | nil => exact ⟨[], rfl, .none⟩
  | append_singleton script entry ih =>
    obtain ⟨rows, hafter, hlags⟩ := ih
    obtain ⟨⟨rows', ceiling'⟩, hstore', hceiling, hmoves⟩ := (Store.mk rows ceiling).performs entry
    obtain rfl : ceiling' = ceiling := hceiling
    refine ⟨rows', ?_, ?_⟩
    · rw [after_concat, hafter, hstore']
    · rw [history_concat, hafter, committedUnder_concat]
      exact hlags.moves (hmoves id)

/-- In a store in memory, the first row under an identifier is sent. -/
def FirstSent (id : Uuid) (storage : Storage) : Prop :=
  ∃ store row rest, storage = .memory store ∧ store.rows.filter (·.id = id) = row :: rest ∧
    row.status = .sent

/-- It is sent after the record of an acceptance, and remains so. -/
theorem firstSent_perform {store : Store} {entry : Entry}
    (h : FirstSent id (.memory store) ∨ ((Storage.memory store).record entry).Sends id) :
    ((Storage.memory store).perform entry).2.FirstSent id := by
  obtain ⟨store', hstore', -, hmoves⟩ := store.performs entry
  refine ⟨store', ?_⟩
  have hmoves := hmoves id
  generalize hrows : store.rows.filter (·.id = id) = rows at hmoves
  generalize store'.rows.filter (·.id = id) = rows' at hmoves ⊢
  cases hmoves with
  | @grows rows added unsent _ =>
    obtain ⟨same, row, rest, hsame, hfirst, hsent⟩ := h.resolve_right unsent
    obtain rfl := Storage.memory.inj hsame
    obtain rfl : row :: rest = rows := hfirst.symm.trans hrows
    exact ⟨row, rest ++ added, hstore', rfl, hsent⟩
  | @marks row changed rest _ hsent =>
    refine ⟨changed, rest, hstore', rfl, hsent ?_⟩
    refine h.imp_left ?_
    rintro ⟨same, row', rest', hsame, hfirst, hsent'⟩
    obtain rfl := Storage.memory.inj hsame
    obtain ⟨rfl, rfl⟩ := List.cons.inj (hfirst.symm.trans hrows)
    exact hsent'

theorem FirstSent.after {storage : Storage} (h : storage.FirstSent id) (script : List Entry) :
    (storage.after script).FirstSent id := by
  induction script generalizing storage with
  | nil => exact h
  | cons entry script ih =>
    obtain ⟨store, row, rest, rfl, hfirst, hsent⟩ := h
    exact ih (firstSent_perform (.inl ⟨store, row, rest, rfl, hfirst, hsent⟩))

/-- A claim on a store in memory is answered with what the store selects. -/
theorem claims_memory (store : Store) (limit : Int) (now databaseNow : Instant) :
    ((Storage.memory store).record ⟨.claim limit, now, databaseNow⟩).Claims id ↔
      id ∈ (store.claim limit now).map (·.id) := by
  rw [record, perform_claim_memory, Record.claims_iff]
  rfl

/-- In memory, once an acceptance is recorded for an identifier, what is left to claim under it are
the rows after the first one. -/
private theorem claims_memory_iff {ceiling : Option Int} {script : List Entry}
    {before later : List Record} {sent : Record}
    (hsplit : (Storage.memory ⟨[], ceiling⟩).history script = before ++ sent :: later)
    (hs : sent.Sends id) :
    (∃ limit now databaseNow, (((Storage.memory ⟨[], ceiling⟩).after script).record
        ⟨.claim limit, now, databaseNow⟩).Claims id) ↔
      0 < ceiling.getD maxRetryCount ∧
        ∃ draft ∈ (committedUnder id ((Storage.memory ⟨[], ceiling⟩).history script)).tail,
          draft.status ≠ .sent := by
  obtain ⟨rows, hafter, hlags⟩ := lags_memory ceiling script id
  have hfirst : ((Storage.memory ⟨[], ceiling⟩).after script).FirstSent id := by
    obtain ⟨earlier, entry, rest, rfl, rfl⟩ := exists_entry_of_history hsplit
    obtain ⟨stored, hstored, -⟩ := lags_memory ceiling earlier id
    rw [hstored] at hs
    rw [after_append, after_cons, hstored]
    exact (firstSent_perform (.inr hs)).after rest
  rw [hafter] at hfirst
  obtain ⟨store, row, rest, hstore, hrows, hsent⟩ := hfirst
  obtain rfl := Storage.memory.inj hstore
  rw [hrows] at hlags
  generalize
    committedUnder id ((Storage.memory ⟨[], ceiling⟩).history script) = committed at hlags ⊢
  simp only [hafter, claims_memory]
  cases hlags with
  | @some draft drafts row rest hnew =>
    constructor
    · rintro ⟨limit, now, -, hm⟩
      obtain ⟨row', hrow', heligible⟩ := (Store.exists_claim_iff id now).mp ⟨limit, hm⟩
      have hrest : row' ∈ rest := by
        rw [hrows] at hrow'
        refine (List.mem_cons.mp hrow').resolve_left ?_
        rintro rfl
        exact Database.unsent_of_isEligible heligible hsent
      obtain ⟨draft', hdraft', hnew'⟩ := exists_mem_of_forall₂ hnew hrest
      obtain ⟨hunsent, htries⟩ := (hnew'.isEligible_iff _ now).mp heligible
      exact ⟨htries, draft', hdraft', hunsent⟩
    · rintro ⟨htries, draft', hdraft', hunsent⟩
      obtain ⟨row', hrow', hnew'⟩ := exists_mem_of_forall₂ (List.Forall₂.flip hnew) hdraft'
      have heligible := (Draft.IsNew.isEligible_iff hnew' ceiling ⟨0, 0⟩).mpr ⟨hunsent, htries⟩
      have hrow : row' ∈ rows.filter (·.id = id) := hrows ▸ List.mem_cons_of_mem row hrow'
      obtain ⟨limit, hm⟩ : ∃ limit, id ∈ ((Store.mk rows ceiling).claim limit ⟨0, 0⟩).map (·.id) :=
        (Store.exists_claim_iff id ⟨0, 0⟩).mpr ⟨row', hrow, heligible⟩
      exact ⟨limit, ⟨0, 0⟩, ⟨0, 0⟩, hm⟩

/-- A storage out of reach records nothing. -/
private theorem not_sends_unreachable {script : List Entry} {before later : List Record}
    {sent : Record} (hsplit : Storage.unreachable.history script = before ++ sent :: later) :
    ¬ sent.Sends id := by
  have hperform : ∀ entry, (Storage.unreachable.perform entry).2 = .unreachable := by
    rintro ⟨operation, now, databaseNow⟩
    cases operation with
    | claim limit =>
      by_cases hl : limit ≤ 0
      · simp only [perform, Storage.claim, if_pos hl]
      · simp only [perform, Storage.claim, if_neg hl]
    | transact | markSent | markFailed | get => rfl
  have hafter : ∀ script, Storage.unreachable.after script = .unreachable := by
    intro script
    induction script with
    | nil => rfl
    | cons entry script ih => rw [after_cons, hperform, ih]
  obtain ⟨earlier, ⟨operation, now, databaseNow⟩, rest, rfl, rfl⟩ := exists_entry_of_history hsplit
  rw [hafter]
  rintro ⟨hop, ha⟩
  obtain rfl : operation = .markSent id := hop
  cases Answer.recorded.inj ha

/-- What can be claimed under an identifier once an acceptance is recorded for it, whatever happens
before, in between and later, and however the clock is set. In a database this is nothing. In memory
it is what was committed under the identifier after the first time, unless it was committed as sent
or the store tries no row at all. -/
theorem claimable_after_sent_iff {storage : Storage} (hempty : storage.rows = [])
    {script : List Entry} {before later : List Record} {sent : Record}
    (hsplit : storage.history script = before ++ sent :: later) (hs : sent.Sends id) :
    (∃ limit now databaseNow,
        ((storage.after script).record ⟨.claim limit, now, databaseNow⟩).Claims id) ↔
      ∃ store, storage = .memory store ∧ 0 < store.maxAttempts.getD maxRetryCount ∧
        ∃ draft ∈ (committedUnder id (storage.history script)).tail, draft.status ≠ .sent := by
  cases storage with
  | memory store =>
    obtain ⟨rows, ceiling⟩ := store
    obtain rfl : rows = [] := hempty
    rw [claims_memory_iff hsplit hs]
    constructor
    · rintro ⟨htries, hdraft⟩
      exact ⟨⟨[], ceiling⟩, rfl, htries, hdraft⟩
    · rintro ⟨store, hstore, htries, hdraft⟩
      obtain rfl := Storage.memory.inj hstore
      exact ⟨htries, hdraft⟩
  | database db mode ceiling =>
    refine iff_of_false ?_ (by simp)
    rintro ⟨limit, now, databaseNow, hclaims⟩
    obtain ⟨last, -, hanswers⟩ := answers_history db mode ceiling
      (script ++ [⟨.claim limit, now, databaseNow⟩])
    rw [history_concat, hsplit, List.append_assoc, List.cons_append] at hanswers
    have hempty : db.outbox = [] := hempty
    have hu : (db.outbox.map (·.id)).Nodup := by
      rw [hempty]
      exact .nil
    exact hanswers.not_claims_after_sends hu hs _ (by simp) hclaims
  | unreachable => exact absurd hs (not_sends_unreachable hsplit)

section Twice

/-- An event that is committed twice, sent, and claimed. -/
def twice : List Entry :=
  let id := Uuid.reserved 0
  let draft : Draft := ⟨id, none, "employee", "7", "employee.created", "hr", [123, 125], .pending⟩
  [⟨.transact [draft] true, ⟨0, 0⟩, ⟨0, 0⟩⟩, ⟨.transact [draft] true, ⟨1, 0⟩, ⟨1, 0⟩⟩,
    ⟨.markSent id, ⟨2, 0⟩, ⟨2, 0⟩⟩, ⟨.claim 10, ⟨3, 0⟩, ⟨3, 0⟩⟩]

/-- A store in memory takes the event twice, and has its second row to claim for ever. -/
theorem twice_claimable :
    (((Storage.memory (.empty none)).history twice)[2]).Sends (Uuid.reserved 0) ∧
      ∃ limit now databaseNow, (((Storage.memory (.empty none)).after twice).record
        ⟨.claim limit, now, databaseNow⟩).Claims (Uuid.reserved 0) := by
  have hsends : (((Storage.memory (.empty none)).history twice)[2]).Sends (Uuid.reserved 0) := by
    decide +kernel
  have hsplit : (Storage.memory (.empty none)).history twice =
      ((Storage.memory (.empty none)).history twice).take 2 ++
        ((Storage.memory (.empty none)).history twice)[2] ::
          ((Storage.memory (.empty none)).history twice).drop 3 := rfl
  refine ⟨hsends, (claimable_after_sent_iff rfl hsplit hsends).mpr ⟨.empty none, rfl, ?_⟩⟩
  decide +kernel

/-- So it is not so that an identifier is claimed no more once an acceptance is recorded for it and
as long as it is not committed again. -/
theorem sent_identifier_claimed_again :
    ¬ ∀ (storage : Storage) (script : List Entry) (before later : List Record) (sent : Record)
        (id : Uuid), storage.rows = [] → storage.history script = before ++ sent :: later →
      sent.Sends id → (∀ record ∈ later, ∀ draft ∈ record.committed, draft.id ≠ id) →
        ∀ record ∈ later, ¬ record.Claims id := by
  intro h
  have hclaimed := h (.memory (.empty none)) twice
    (((Storage.memory (.empty none)).history twice).take 2)
    (((Storage.memory (.empty none)).history twice).drop 3)
    ((Storage.memory (.empty none)).history twice)[2] (Uuid.reserved 0) rfl rfl
  revert hclaimed
  decide +kernel

end Twice

end Storage
end HrPipeline
