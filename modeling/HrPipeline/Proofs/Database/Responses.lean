import HrPipeline.Proofs.Outbox.Effects

/-!
# Responses of the database

`Database.respond` answers an operation on the outbox, where rows are claimed in some mode, and
`Answers` is a run of such operations. A storage in a database answers in the same way. `Row.Passes`
says all that an operation can do to the row with an identifier, at whatever readings of the clock:
there is only one, for the identifiers are keys.
-/

namespace HrPipeline

open HrPipeline.Calendar HrPipeline.Outbox

namespace Outbox

deriving instance DecidableEq for Answer

namespace Record

instance (record : Record) (id : Uuid) : Decidable (record.Sends id) :=
  inferInstanceAs (Decidable (_ ∧ _))

/-- The identifiers of the rows that a claim was answered with. -/
def claimedIds (record : Record) : List Uuid :=
  match record.operation, record.answer with
  | .claim _, .claimed (.ok rows) => rows.map (·.id)
  | _, _ => []

theorem claims_iff (record : Record) (id : Uuid) : record.Claims id ↔ id ∈ record.claimedIds := by
  unfold claimedIds
  constructor
  · rintro ⟨limit, rows, hop, ha, hm⟩
    rw [hop, ha]
    exact hm
  · intro hm
    split at hm
    · next limit rows hop ha => exact ⟨limit, rows, hop, ha, hm⟩
    · cases hm

instance (record : Record) (id : Uuid) : Decidable (record.Claims id) :=
  decidable_of_iff _ (record.claims_iff id).symm

end Record
end Outbox

namespace Database

/-- The answer to a record of an attempt, and the tables after it. -/
def recorded (db : Database) : Except OutboxError Database → Answer × Database
  | .ok after => (.recorded (.ok ()), after)
  | .error error => (.recorded (.error error), db)

/-- Answers an operation; gives the tables after it. -/
def respond (mode : ClaimMode) (ceiling : Option Int) (entry : Entry) (db : Database) :
    Answer × Database :=
  match entry.operation with
  | .transact drafts commits =>
    let (results, opened) := enlistEach (attemptInsert entry.databaseNow) drafts (some db)
    (.enlisted results (commits && opened.isSome), if commits then opened.getD db else db)
  | .claim limit =>
    if limit ≤ 0 then (.claimed (.ok []), db)
    else
      match db.claim mode ceiling limit entry.now with
      | .ok (rows, after) => (.claimed (.ok rows), after)
      | .error error => (.claimed (.error error), db)
  | .markSent id => db.recorded (db.markSent id entry.now)
  | .markFailed id reason => db.recorded (db.markFailed id reason entry.now)
  | .get id => (.found (.ok (db.outboxRow? id)), db)

/-- An operation with the answer of the database. -/
def answered (mode : ClaimMode) (ceiling : Option Int) (entry : Entry) (db : Database) :
    Record := ⟨entry, (db.respond mode ceiling entry).1⟩

/-- Operations that a database answers one after the other, and the tables after them. -/
inductive Answers (mode : ClaimMode) (ceiling : Option Int) :
    Database → List Record → Database → Prop where
  | nil (db : Database) : Answers mode ceiling db [] db
  | cons {db last : Database} {records : List Record} (entry : Entry)
      (h : Answers mode ceiling (db.respond mode ceiling entry).2 records last) :
      Answers mode ceiling db (db.answered mode ceiling entry :: records) last

/-- The operations of a script with the answers of the database. -/
def history (mode : ClaimMode) (ceiling : Option Int) (db : Database) :
    List Entry → List Record
  | [] => []
  | entry :: script =>
    db.answered mode ceiling entry ::
      (db.respond mode ceiling entry).2.history mode ceiling script

/-- A database answers every script. -/
theorem exists_answers (mode : ClaimMode) (ceiling : Option Int) (script : List Entry)
    (db : Database) :
    ∃ last, Answers mode ceiling db (db.history mode ceiling script) last := by
  induction script generalizing db with
  | nil => exact ⟨db, .nil db⟩
  | cons entry script ih =>
    obtain ⟨last, h⟩ := ih (db.respond mode ceiling entry).2
    exact ⟨last, .cons entry h⟩

end Database

/-- A storage in a database answers as the database does. -/
theorem Storage.perform_database (db : Database) (mode : ClaimMode) (ceiling : Option Int)
    (entry : Entry) :
    (Storage.database db mode ceiling).perform entry =
      ((db.respond mode ceiling entry).1,
        .database (db.respond mode ceiling entry).2 mode ceiling) := by
  obtain ⟨operation, now, databaseNow⟩ := entry
  unfold perform Database.respond
  cases operation with
  | transact drafts commits => rfl
  | claim limit =>
    by_cases hl : limit ≤ 0
    · simp only [Storage.claim, if_pos hl]
    · simp only [Storage.claim, if_neg hl]
      simp only [bind, Except.bind]
      cases db.claim mode ceiling limit now <;> rfl
  | markSent id =>
    simp only [Storage.markSent]
    cases db.markSent id now <;> rfl
  | markFailed id reason =>
    simp only [Storage.markFailed]
    cases db.markFailed id reason now <;> rfl
  | get id => rfl

/-- A storage in a database answers a script as the database does. -/
theorem Storage.answers_history (db : Database) (mode : ClaimMode) (ceiling : Option Int)
    (script : List Entry) :
    ∃ last, (Storage.database db mode ceiling).after script = .database last mode ceiling ∧
      Database.Answers mode ceiling db
        ((Storage.database db mode ceiling).history script) last := by
  induction script generalizing db with
  | nil => exact ⟨db, rfl, .nil db⟩
  | cons entry script ih =>
    obtain ⟨last, hafter, hanswers⟩ := ih (db.respond mode ceiling entry).2
    have hp := perform_database db mode ceiling entry
    refine ⟨last, ?_, ?_⟩
    · rw [after_cons, hp]
      exact hafter
    · rw [history_cons, record, hp]
      exact .cons entry hanswers

namespace Database

variable {mode : ClaimMode} {ceiling : Option Int} {db last : Database} {id : Uuid}
  {row : Row} {now : Instant}

/-- A run can be told in two parts. -/
theorem Answers.append {before later : List Record}
    (h : Answers mode ceiling db (before ++ later) last) :
    ∃ middle, Answers mode ceiling db before middle ∧
      Answers mode ceiling middle later last := by
  induction before generalizing db with
  | nil => exact ⟨db, .nil db, h⟩
  | cons record before ih =>
    cases h with
    | cons entry h =>
      obtain ⟨middle, hbefore, hlater⟩ := ih h
      exact ⟨middle, .cons entry hbefore, hlater⟩

end Database

/-- What an operation may do to a row, where claims lease rows for so many nanoseconds if at
all. -/
inductive Outbox.Row.Passes (lease? : Option Nat) (record : Record) (row : Row) : Row → Prop where
  | sent (row' : Row) (hs : row'.status = .sent) (by_record : record.Sends row.id) :
    Passes lease? record row row'
  | failed (row' : Row) (reason : String) (unsent : row.status ≠ .sent)
      (by_record : record.Fails row.id reason) : Passes lease? record row row'
  | leased (lease : Nat) (leases : lease? = some lease) (unsent : row.status ≠ .sent)
      (by_record : record.Claims row.id) :
    Passes lease? record row (row.putOff record.now lease)
  | kept (unmarked : row.status ≠ .sent → ¬ record.Sends row.id ∧
      (∀ reason, ¬ record.Fails row.id reason) ∧ (lease?.isSome → ¬ record.Claims row.id)) :
    Passes lease? record row row

namespace Database

variable {mode : ClaimMode} {ceiling : Option Int} {db last : Database} {id : Uuid}
  {row : Row} {now : Instant}

/-- The row that a look-up finds is in the outbox. -/
theorem mem_of_outboxRow? (h : db.outboxRow? id = some row) : row ∈ db.outbox ∧ row.id = id :=
  ⟨List.mem_of_find?_eq_some h, by simpa using List.find?_some h⟩

/-- The same rows under an identifier have the same first one. -/
private theorem outboxRow?_eq_head? (db : Database) (id : Uuid) :
    db.outboxRow? id = (db.outbox.filter (·.id = id)).head? := List.head?_filter.symm

/-- A statement changes the row with an identifier, in some way, and no other row. -/
structure Touches (id : Uuid) (related : Row → Row → Prop) (db db' : Database) : Prop where
  ids : db'.outbox.map (·.id) = db.outbox.map (·.id)
  row : ∃ row row', db.outboxRow? id = some row ∧ db'.outboxRow? id = some row' ∧ related row row'
  others : ∀ other ≠ id, db'.outboxRow? other = db.outboxRow? other

theorem touches_updateRow {db' : Database} {change : Row → Row}
    (hid : ∀ row, (change row).id = row.id) (h : db.updateRow id change = .ok db') :
    db.Touches id (fun row row' => row' = change row) db' := by
  unfold updateRow at h
  split at h
  · next rows hu =>
    obtain rfl := Except.ok.inj h
    obtain ⟨⟨row, rest, hrows, hrows'⟩, hothers⟩ := filter_updateFirst hid hu
    refine ⟨ids_updateFirst hid hu, ⟨row, change row, ?_, ?_, rfl⟩, fun other hother => ?_⟩
    · rw [outboxRow?_eq_head?, hrows, List.head?_cons]
    · rw [outboxRow?_eq_head?, hrows', List.head?_cons]
    · rw [outboxRow?_eq_head?, outboxRow?_eq_head?, hothers other hother]
  · cases h

/-- A record of an attempt touches the row with the identifier, which stays as it is if it is sent
already. -/
theorem touches_marked {db' : Database} {change : Row → Row} (hid : ∀ row, (change row).id = row.id)
    (h : db.Marked id now change db') :
    db.Touches id (fun row row' => if row.status = .sent then row' = row
      else row' = storedRow (change row)) db' := by
  cases h with
  | kept row found sent =>
    exact ⟨rfl, ⟨row, row, found, found, by rw [if_pos sent]⟩, fun _ _ => rfl⟩
  | changed row _ found unsent accepted written =>
    have hstored : ∀ row : Row, (storedRow (change row)).id = row.id := hid
    obtain ⟨hids, ⟨other, row', hrow, hrow', hchange⟩, hothers⟩ := touches_updateRow hstored written
    obtain rfl := Option.some.inj (found.symm.trans hrow)
    exact ⟨hids, ⟨row, row', hrow, hrow', by rwa [if_neg unsent]⟩, hothers⟩

/-- What is related in one way is related in another. -/
theorem Touches.mono {db' : Database} {related related' : Row → Row → Prop}
    (h : db.Touches id related db') (himp : ∀ row row', related row row' → related' row row') :
    db.Touches id related' db' := by
  obtain ⟨row, row', hrow, hrow', hrelated⟩ := h.row
  exact ⟨h.ids, ⟨row, row', hrow, hrow', himp row row' hrelated⟩, h.others⟩

/-- After the record of an acceptance the row is sent. -/
theorem touches_markSent {db' : Database} (h : db.markSent id now = .ok db') :
    db.Touches id (fun _ row' => row'.status = .sent) db' := by
  apply (touches_marked (Row.markSent_id now) (markSent_marked h)).mono
  intro row row' hrow'
  split at hrow'
  · next hs => exact hrow' ▸ hs
  · exact hrow' ▸ Row.markSent_status now row

/-- The record of a failure leaves a sent row as it is. -/
theorem touches_markFailed {db' : Database} {reason : String}
    (h : db.markFailed id reason now = .ok db') :
    db.Touches id (fun row row' => row.status = .sent → row' = row) db' := by
  apply (touches_marked (Row.markFailed_id now reason) (markFailed_marked h)).mono
  intro row row' hrow' hs
  rwa [if_pos hs] at hrow'

/-- A claim is answered with the eligible rows, with none at all, or with an error; only in the
first case it may have leased rows. -/
theorem respond_claim (db : Database) (limit : Int) (now databaseNow : Instant) :
    (∃ rows db', db.claim mode ceiling limit now = .ok (rows, db') ∧
        db.respond mode ceiling ⟨.claim limit, now, databaseNow⟩ = (.claimed (.ok rows), db')) ∨
      ∃ result, (∀ rows, result = .ok rows → rows = []) ∧
        db.respond mode ceiling ⟨.claim limit, now, databaseNow⟩ = (.claimed result, db) := by
  unfold respond
  by_cases hl : limit ≤ 0
  · simp only [if_pos hl]
    refine .inr ⟨.ok [], ?_, rfl⟩
    intro rows hrows
    exact (Except.ok.inj hrows).symm
  · simp only [if_neg hl]
    cases hc : db.claim mode ceiling limit now with
    | error error => exact .inr ⟨.error error, by simp, rfl⟩
    | ok result => exact .inl ⟨result.1, result.2, rfl, rfl⟩

/-- Looking up a row after rows of some identifiers have changed. -/
private theorem find?_changeRows {ids : List Uuid} {change : Row → Row}
    (hid : ∀ row, (change row).id = row.id) (rows : List Row) :
    (changeRows ids change rows).find? (·.id = id) =
      (rows.find? (·.id = id)).map fun row => if id ∈ ids then change row else row := by
  induction rows with
  | nil => rfl
  | cons row rows ih =>
    have hkept : (if row.id ∈ ids then change row else row).id = row.id := by
      split
      · exact hid row
      · rfl
    have hcons : changeRows ids change (row :: rows) =
        (if row.id ∈ ids then change row else row) :: changeRows ids change rows := rfl
    rw [hcons, List.find?_cons, List.find?_cons, hkept]
    by_cases hrow : row.id = id
    · simp [hrow]
    · simp only [hrow, decide_false]
      exact ih

/-- A claim keeps the identifiers of the rows. -/
theorem ids_afterClaim (lease? : Option Nat) (ids : List Uuid) (now : Instant) :
    (db.afterClaim lease? ids now).outbox.map (·.id) = db.outbox.map (·.id) := by
  cases lease? with
  | none => rfl
  | some lease => exact ids_changeRows (fun row => row.leased_id _ _) db.outbox

/-- Looking up a row after rows of some identifiers were leased. -/
theorem outboxRow?_afterClaim (lease : Nat) (ids : List Uuid) (now : Instant) :
    (db.afterClaim (some lease) ids now).outboxRow? id =
      (db.outboxRow? id).map fun row => if id ∈ ids then row.putOff now lease else row := by
  have hid : ∀ row : Row, (row.putOff now lease).id = row.id := fun row => row.leased_id _ _
  exact find?_changeRows hid db.outbox

/-- An eligible row is not sent. -/
theorem unsent_of_isEligible (h : row.isEligible ceiling now = true) : row.status ≠ .sent := by
  simp only [Row.isEligible, Row.isClaimable, Bool.and_eq_true] at h
  exact of_decide_eq_true h.1.1

/-- Of the rows that are claimed, the one with an identifier is the one that a look-up finds. -/
theorem eligible_of_id_mem (hu : (db.outbox.map (·.id)).Nodup) {limit : Int}
    (hm : id ∈ (db.eligible ceiling limit now).map (·.id)) :
    ∃ row, db.outboxRow? id = some row ∧ row.isEligible ceiling now.toMicros = true := by
  obtain ⟨row, hrow, rfl⟩ := List.mem_map.mp hm
  have hsorted := List.mem_of_mem_take hrow
  rw [oldestFirst, List.mem_mergeSort, List.mem_filter] at hsorted
  exact ⟨row, outboxRow?_of_mem hu hsorted.1, hsorted.2⟩

/-- The identifiers are keys after every operation. -/
theorem nodup_respond (hu : (db.outbox.map (·.id)).Nodup) (entry : Entry) :
    ((db.respond mode ceiling entry).2.outbox.map (·.id)).Nodup := by
  obtain ⟨operation, now, databaseNow⟩ := entry
  cases operation with
  | transact drafts commits =>
    cases commits with
    | false => exact hu
    | true =>
      show (((enlistEach (attemptInsert databaseNow) drafts (some db)).2.getD db).outbox.map
        _).Nodup
      cases ho : (enlistEach (attemptInsert databaseNow) drafts (some db)).2 with
      | none => exact hu
      | some db' => exact nodup_enlistEach hu ho
  | claim limit =>
    rcases respond_claim db limit now databaseNow with
      ⟨rows, db', hc, hrespond⟩ | ⟨result, -, hrespond⟩
    · rw [show db.respond mode ceiling _ = _ from hrespond]
      show (db'.outbox.map _).Nodup
      rw [(claim_ok hc).2, ids_afterClaim]
      exact hu
    · rw [show db.respond mode ceiling _ = _ from hrespond]
      exact hu
  | markSent id =>
    show ((db.recorded (db.markSent id now)).2.outbox.map _).Nodup
    cases hr : db.markSent id now with
    | error error => exact hu
    | ok db' => exact (touches_markSent hr).ids ▸ hu
  | markFailed id reason =>
    show ((db.recorded (db.markFailed id reason now)).2.outbox.map _).Nodup
    cases hr : db.markFailed id reason now with
    | error error => exact hu
    | ok db' => exact (touches_markFailed hr).ids ▸ hu
  | get id => exact hu

/-- A claim is answered with rows that are eligible. -/
theorem eligible_of_claims (hu : (db.outbox.map (·.id)).Nodup) {entry : Entry}
    (h : (db.answered mode ceiling entry).Claims id) :
    ∃ row, db.outboxRow? id = some row ∧ row.isEligible ceiling entry.now.toMicros = true := by
  obtain ⟨operation, now, databaseNow⟩ := entry
  obtain ⟨limit, claimed, hop, ha, hm⟩ := h
  obtain rfl : operation = .claim limit := hop
  have ha : (db.respond mode ceiling ⟨.claim limit, now, databaseNow⟩).1 =
    .claimed (.ok claimed) := ha
  rcases respond_claim db limit now databaseNow with
    ⟨rows, db', hc, hrespond⟩ | ⟨result, hnone, hrespond⟩
  · rw [hrespond] at ha
    obtain rfl := Except.ok.inj (Answer.claimed.inj ha)
    rw [ids_claim hc] at hm
    exact eligible_of_id_mem hu hm
  · rw [hrespond] at ha
    rw [hnone claimed (Answer.claimed.inj ha)] at hm
    cases hm

/-- What a claim does to the row with an identifier. -/
private theorem claim_passes (hu : (db.outbox.map (·.id)).Nodup) (hr : db.outboxRow? id = some row)
    (limit : Int) (now databaseNow : Instant) :
    ∃ row', (db.respond mode ceiling ⟨.claim limit, now, databaseNow⟩).2.outboxRow? id =
        some row' ∧
      row.Passes mode.lease? (db.answered mode ceiling ⟨.claim limit, now, databaseNow⟩) row' := by
  obtain ⟨-, rfl⟩ := mem_of_outboxRow? hr
  rcases respond_claim db limit now databaseNow with
    ⟨rows, db', hc, hrespond⟩ | ⟨result, hnone, hrespond⟩
  · rw [answered, hrespond]
    have hids := ids_claim hc
    obtain ⟨-, rfl⟩ := claim_ok hc
    rw [← hids]
    cases mode.lease? with
    | none =>
      exact ⟨row, hr, .kept fun _ => ⟨by simp [Record.Sends], by simp [Record.Fails], by simp⟩⟩
    | some lease =>
      refine ⟨_, (outboxRow?_afterClaim lease _ now).trans (congrArg (Option.map _) hr), ?_⟩
      split
      · next hm =>
        refine .leased lease rfl ?_ ⟨limit, rows, rfl, rfl, hm⟩
        rw [hids] at hm
        obtain ⟨other, ho, heligible⟩ := eligible_of_id_mem hu hm
        obtain rfl := Option.some.inj (hr.symm.trans ho)
        exact unsent_of_isEligible heligible
      · next hm =>
        refine .kept fun _ => ⟨by simp [Record.Sends], by simp [Record.Fails], fun _ => ?_⟩
        rintro ⟨limit', claimed, -, ha, hclaimed⟩
        obtain rfl := Except.ok.inj (Answer.claimed.inj ha)
        exact hm hclaimed
  · rw [answered, hrespond]
    refine ⟨row, hr, .kept fun _ => ⟨by simp [Record.Sends], by simp [Record.Fails], ?_⟩⟩
    rintro - ⟨limit', claimed, -, ha, hm⟩
    rw [hnone claimed (Answer.claimed.inj ha)] at hm
    cases hm

/-- What the record of an attempt does to the row with an identifier, if it can only be about
another one. -/
private theorem record_passes {entry : Entry} {other : Uuid} {related : Row → Row → Prop}
    {result : Except OutboxError Database} (hr : db.outboxRow? id = some row)
    (hrespond : db.respond mode ceiling entry = db.recorded result)
    (htouches : ∀ db', result = .ok db' → db.Touches other related db')
    (hself : ∀ answer row', answer = .recorded (.ok ()) → row.id = other → related row row' →
      row.Passes mode.lease? ⟨entry, answer⟩ row')
    (hothers : ∀ answer, row.id ≠ other ∨ (∃ error, answer = .recorded (.error error)) →
      row.Passes mode.lease? ⟨entry, answer⟩ row) :
    ∃ row', (db.respond mode ceiling entry).2.outboxRow? id = some row' ∧
      row.Passes mode.lease? (db.answered mode ceiling entry) row' := by
  obtain ⟨-, rfl⟩ := mem_of_outboxRow? hr
  rw [answered, hrespond]
  cases result with
  | error error => exact ⟨row, hr, hothers _ (.inr ⟨error, rfl⟩)⟩
  | ok db' =>
    obtain ⟨-, ⟨old, row', hold, hrow', hrelated⟩, hkept⟩ := htouches db' rfl
    by_cases ho : row.id = other
    · subst ho
      obtain rfl := Option.some.inj (hr.symm.trans hold)
      exact ⟨row', hrow', hself _ row' rfl rfl hrelated⟩
    · exact ⟨row, (hkept row.id ho).trans hr, hothers _ (.inl ho)⟩

/-- What an operation does to the row with an identifier. -/
theorem respond_passes (hu : (db.outbox.map (·.id)).Nodup) (hr : db.outboxRow? id = some row)
    (entry : Entry) :
    ∃ row', (db.respond mode ceiling entry).2.outboxRow? id = some row' ∧
      row.Passes mode.lease? (db.answered mode ceiling entry) row' := by
  obtain ⟨operation, now, databaseNow⟩ := entry
  cases operation with
  | transact drafts commits =>
    refine ⟨row, ?_, .kept fun _ => ⟨by simp [Record.Sends, answered],
      by simp [Record.Fails, answered], fun _ => by simp [Record.Claims, answered]⟩⟩
    cases commits with
    | false => exact hr
    | true =>
      show ((enlistEach (attemptInsert databaseNow) drafts (some db)).2.getD db).outboxRow? id = _
      cases ho : (enlistEach (attemptInsert databaseNow) drafts (some db)).2 with
      | none => exact hr
      | some db' =>
        obtain ⟨added, rfl, -⟩ := outbox_enlistEach ho
        show (db.outbox ++ added).find? (·.id = id) = some row
        rw [List.find?_append, show db.outbox.find? (·.id = id) = some row from hr]
        rfl
  | claim limit => exact claim_passes hu hr limit now databaseNow
  | markSent other =>
    refine record_passes hr rfl (fun _ hs => touches_markSent hs) ?_ ?_
    · rintro - row' rfl rfl hsent
      exact .sent row' hsent ⟨rfl, rfl⟩
    · intro answer hanswer
      refine .kept fun _ => ⟨?_, by simp [Record.Fails], fun _ => by simp [Record.Claims]⟩
      rintro ⟨hop, ha⟩
      rcases hanswer with hne | ⟨error, rfl⟩
      · exact hne (Operation.markSent.inj hop).symm
      · cases ha
  | markFailed other reason =>
    refine record_passes hr rfl (fun _ hf => touches_markFailed hf) ?_ ?_
    · rintro - row' rfl rfl hkept
      by_cases hs : row.status = .sent
      · obtain rfl := hkept hs
        exact .kept fun hunsent => absurd hs hunsent
      · exact .failed row' reason hs ⟨rfl, rfl⟩
    · intro answer hanswer
      refine .kept fun _ => ⟨by simp [Record.Sends], ?_, fun _ => by simp [Record.Claims]⟩
      rintro reason' ⟨hop, ha⟩
      rcases hanswer with hne | ⟨error, rfl⟩
      · exact hne (Operation.markFailed.inj hop).1.symm
      · cases ha
  | get other =>
    exact ⟨row, hr, .kept fun _ =>
      ⟨by simp [Record.Sends, answered], by simp [Record.Fails, answered],
        fun _ => by simp [Record.Claims, answered]⟩⟩

/-- The identifiers are keys throughout a run. -/
theorem Answers.nodup {records : List Record} (h : Answers mode ceiling db records last)
    (hu : (db.outbox.map (·.id)).Nodup) : (last.outbox.map (·.id)).Nodup := by
  induction h with
  | nil _ => exact hu
  | cons entry _ ih => exact ih (nodup_respond hu entry)

/-- The row with an identifier is there and sent. -/
structure Settled (id : Uuid) (db : Database) : Prop where
  ids : (db.outbox.map (·.id)).Nodup
  sent : ∃ row, db.outboxRow? id = some row ∧ row.status = .sent

/-- After the record of an acceptance the row is settled. -/
theorem settled_of_sends {entry : Entry} (hu : (db.outbox.map (·.id)).Nodup)
    (h : (db.answered mode ceiling entry).Sends id) :
    (db.respond mode ceiling entry).2.Settled id := by
  refine ⟨nodup_respond hu entry, ?_⟩
  obtain ⟨operation, now, databaseNow⟩ := entry
  obtain ⟨hop, ha⟩ := h
  obtain rfl : operation = .markSent id := hop
  have ha : (db.recorded (db.markSent id now)).1 = .recorded (.ok ()) := ha
  show ∃ row, (db.recorded (db.markSent id now)).2.outboxRow? id = some row ∧ _
  cases hs : db.markSent id now with
  | error error =>
    rw [hs] at ha
    cases Answer.recorded.inj ha
  | ok db' =>
    obtain ⟨-, row', -, hrow', hsent⟩ := (touches_markSent hs).row
    exact ⟨row', hrow', hsent⟩

/-- Nothing unsettles a row. -/
theorem Settled.respond (h : db.Settled id) (entry : Entry) :
    (db.respond mode ceiling entry).2.Settled id := by
  obtain ⟨hu, row, hr, hs⟩ := h
  obtain ⟨row', hr', hpasses⟩ := respond_passes hu hr entry
  refine ⟨nodup_respond hu entry, row', hr', ?_⟩
  cases hpasses with
  | sent _ hs' _ => exact hs'
  | failed _ _ unsent _ => exact absurd hs unsent
  | leased _ _ unsent _ => exact absurd hs unsent
  | kept _ => exact hs

/-- A settled row is not claimed. -/
theorem Settled.not_claims (h : db.Settled id) (entry : Entry) :
    ¬ (db.answered mode ceiling entry).Claims id := by
  intro hclaims
  obtain ⟨row, hr, heligible⟩ := eligible_of_claims h.ids hclaims
  obtain ⟨sent, hsent, hs⟩ := h.sent
  obtain rfl := Option.some.inj (hr.symm.trans hsent)
  exact unsent_of_isEligible heligible hs

/-- From when a row is settled on, no operation claims it. -/
theorem Answers.not_claims_of_settled {records : List Record}
    (h : Answers mode ceiling db records last) (hs : db.Settled id) :
    ∀ record ∈ records, ¬ record.Claims id := by
  induction h with
  | nil _ => simp
  | cons entry _ ih =>
    exact List.forall_mem_cons.mpr ⟨hs.not_claims entry, ih (hs.respond entry)⟩

/-- In a run, no claim comes after the record of an acceptance. -/
theorem Answers.not_claims_after_sends {before later : List Record} {sent : Record}
    (h : Answers mode ceiling db (before ++ sent :: later) last)
    (hu : (db.outbox.map (·.id)).Nodup) (hs : sent.Sends id) :
    ∀ record ∈ later, ¬ record.Claims id := by
  obtain ⟨middle, hbefore, hrest⟩ := h.append
  cases hrest with
  | cons entry hlater => exact hlater.not_claims_of_settled (settled_of_sends (hbefore.nodup hu) hs)

end Database
end HrPipeline
