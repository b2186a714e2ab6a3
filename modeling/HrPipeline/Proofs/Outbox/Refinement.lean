import HrPipeline.Proofs.Outbox.Effects

/-!
# The outbox in memory answers like the one in the database

With the same rows, a store in memory and a database that claims by reading alone give the same
answer to an operation and keep the same rows. So they answer a whole script alike, as long as the
database can store every text and every instant as it is.
-/

namespace HrPipeline

open HrPipeline.Calendar HrPipeline.Outbox

namespace Outbox

/-- An entry whose texts and instants the database stores as they are. Its own clock shows the same
time as the other one when a transaction commits. -/
structure Entry.Plain (entry : Entry) : Prop where
  texts : ∀ draft ∈ entry.operation.accepted, draft.Fits
  reason : ∀ id reason, entry.operation = .markFailed id reason → '\x00' ∉ reason.toList
  clock : Database.Exact entry.now
  databaseClock : ∀ drafts, entry.operation = .transact drafts true → entry.databaseNow = entry.now

/-- A transaction of the database whose drafts fit and are new answers each with its check and
appends the rows of those that pass. -/
theorem enlistEach_attemptInsert {now : Instant} {drafts : List Draft} {db : Database}
    (hfits : ∀ draft ∈ drafts.filter (·.isAccepted), draft.Fits)
    (hids : (db.outbox.map (·.id) ++ (drafts.filter (·.isAccepted)).map (·.id)).Nodup) :
    enlistEach (attemptInsert now) drafts (some db) =
      (drafts.map Draft.check, some { db with
        outbox := db.outbox ++
          (drafts.filter (·.isAccepted)).map fun draft => Row.ofDraft draft now.toMicros }) := by
  induction drafts generalizing db with
  | nil => simp [enlistEach]
  | cons draft drafts ih =>
    cases hc : draft.check with
    | error error =>
      have hr := isAccepted_of_error hc
      rw [List.filter_cons_of_neg (by simp [hr])] at hfits hids ⊢
      simp [enlistEach, attemptInsert, hc, ih hfits hids]
    | ok _ =>
      have hr := isAccepted_of_ok hc
      rw [List.filter_cons_of_pos hr] at hfits hids ⊢
      have hnew : ¬ db.outbox.any (·.id = draft.id) = true := by
        intro hany
        obtain ⟨row, hm, hid⟩ := List.any_eq_true.mp hany
        exact (List.nodup_append.mp hids).2.2 row.id (List.mem_map_of_mem hm) draft.id (by simp)
          (of_decide_eq_true hid)
      have he : db.enlist now draft = .ok { db with
          outbox := db.outbox ++ [Row.ofDraft draft now.toMicros] } := by
        rw [Database.enlist_eq, hc,
          Database.insertDraft_of_fits db now (hfits draft List.mem_cons_self), if_neg hnew]
        rfl
      have hrest : enlistEach (attemptInsert now) drafts
          (some { db with outbox := db.outbox ++ [Row.ofDraft draft now.toMicros] }) = _ :=
        ih (fun other hm => hfits other (List.mem_cons_of_mem _ hm)) (by simpa using hids)
      simp [enlistEach, attemptInsert, hc, he, hrest]

section Marking

variable {rows : List Row} {id : Uuid} {change : Row → Row}

/-- A change of the row with an identifier keeps rows tidy, if it keeps the identifier and processes
no row that stays unsent. -/
theorem Tidy.map (ht : Tidy rows) (hid : ∀ row, (change row).id = row.id)
    (hp : ∀ row, (row.status ≠ .sent → row.processedAt = none) →
      (change row).status ≠ .sent → (change row).processedAt = none) :
    Tidy (rows.map fun row => if row.id = id then change row else row) where
  ids := by
    rw [ids_map hid]
    exact ht.ids
  unprocessed := by
    intro row hm
    obtain ⟨before, hb, rfl⟩ := List.mem_map.mp hm
    split
    · exact hp before (ht.unprocessed before hb)
    · exact ht.unprocessed before hb

end Marking

end Outbox

namespace Storage

section Agreement

variable (ceiling : Option Int) (db : Database) {rows : List Row} {now databaseNow : Instant}

/-- A store in memory with certain rows. -/
def inMemory (rows : List Row) : Storage := .memory ⟨rows, ceiling⟩

/-- A database that claims by reading alone, with certain rows in its outbox. -/
def inDatabase (rows : List Row) : Storage :=
  .database { db with outbox := rows } .shared ceiling

/-- Both storages with certain rows give the same answer to an operation, and have the same rows
afterwards: tidy ones, which are no new ones or those of the accepted drafts. -/
structure Agree (entry : Entry) (rows : List Row) (answer : Answer) (rows' : List Row) : Prop where
  memory : (inMemory ceiling rows).perform entry = (answer, inMemory ceiling rows')
  database : (inDatabase ceiling db rows).perform entry = (answer, inDatabase ceiling db rows')
  tidy : Tidy rows'
  ids : ∃ added, rows'.map (·.id) = rows.map (·.id) ++ added ∧
    added.Sublist (entry.operation.accepted.map (·.id))

/-- The storages agree on an operation that leaves the rows as they are. -/
private theorem agree_of_same {entry : Entry} {answer : Answer} (ht : Tidy rows)
    (hm : (inMemory ceiling rows).perform entry = (answer, inMemory ceiling rows))
    (hd : (inDatabase ceiling db rows).perform entry = (answer, inDatabase ceiling db rows)) :
    Agree ceiling db entry rows answer rows :=
  ⟨hm, hd, ht, [], (List.append_nil _).symm, List.nil_sublist _⟩

/-- The storages agree on a transaction: each draft is answered with its check. -/
private theorem agree_transact (drafts : List Draft) (commits : Bool) (ht : Tidy rows)
    (hp : Entry.Plain ⟨.transact drafts commits, now, databaseNow⟩)
    (hids : (rows.map (·.id) ++ (drafts.filter (·.isAccepted)).map (·.id)).Nodup) :
    ∃ rows', Agree ceiling db ⟨.transact drafts commits, now, databaseNow⟩ rows
      (.enlisted (drafts.map Draft.check) commits) rows' := by
  have hinsert : enlistEach (attemptInsert databaseNow) drafts (some { db with outbox := rows }) =
      _ := enlistEach_attemptInsert hp.texts hids
  cases commits with
  | false =>
    refine ⟨rows, agree_of_same ceiling db ht ?_ ?_⟩
    · simp [perform, transact, inMemory, enlistEach_attempt]
    · simp [perform, transact, inDatabase, hinsert]
  | true =>
    have hnow : databaseNow.toMicros = now := by
      have hsame : databaseNow = now := hp.databaseClock drafts rfl
      rw [hsame, hp.clock.whole.toMicros_eq]
    have hnew : (rows ++ (drafts.filter (·.isAccepted)).map fun draft =>
        Row.ofDraft draft now).map (·.id) =
          rows.map (·.id) ++ (drafts.filter (·.isAccepted)).map (·.id) := by
      simp
    refine ⟨rows ++ (drafts.filter (·.isAccepted)).map fun draft => Row.ofDraft draft now, ?_⟩
    constructor
    case memory =>
      simp [perform, transact, inMemory, enlistEach_attempt, Store.commit, Transaction.empty]
    case database => simp [perform, transact, inDatabase, hinsert, hnow]
    case tidy =>
      refine ⟨hnew ▸ hids, fun row hm => ?_⟩
      rcases List.mem_append.mp hm with hm | hm
      · exact ht.unprocessed row hm
      · obtain ⟨draft, -, rfl⟩ := List.mem_map.mp hm
        exact fun _ => rfl
    case ids => exact ⟨_, hnew, .refl _⟩

/-- The storages agree on a claim: they select from the same rows in the same way. -/
private theorem agree_claim (limit : Int) (ht : Tidy rows) (hn : Database.Exact now) :
    ∃ claimed, Agree ceiling db ⟨.claim limit, now, databaseNow⟩ rows (.claimed (.ok claimed))
      rows := by
  by_cases hl : limit ≤ 0
  · refine ⟨[], agree_of_same ceiling db ht ?_ ?_⟩ <;>
      simp only [perform, Storage.claim, if_pos hl]
  · refine ⟨(Store.mk rows ceiling).claim limit now, agree_of_same ceiling db ht ?_ ?_⟩
    · simp only [perform, Storage.claim, inMemory, if_neg hl]
    · simp [perform, Storage.claim, inDatabase, if_neg hl, Database.claim, hn.accepted,
        Database.eligible, Store.claim, hn.whole.toMicros_eq, bind, Except.bind]

/-- The storages agree on a record of an attempt. -/
private theorem agree_record {entry : Entry} (id : Uuid) {change : Row → Row} (ht : Tidy rows)
    (hm : (inMemory ceiling rows).perform entry = (inMemory ceiling rows).recordOutcome id change)
    (hd : (inDatabase ceiling db rows).perform entry =
      (inDatabase ceiling db rows).recordOutcome id change)
    (hid : ∀ row, (change row).id = row.id)
    (hp : ∀ row, (row.status ≠ .sent → row.processedAt = none) →
      (change row).status ≠ .sent → (change row).processedAt = none) :
    ∃ answer rows', Agree ceiling db entry rows answer rows' := by
  by_cases hany : rows.any (·.id = id) = true
  · have hmemory : (inMemory ceiling rows).recordOutcome id change = (.recorded (.ok ()),
        inMemory ceiling (rows.map fun row => if row.id = id then change row else row)) :=
      if_pos hany
    have hdatabase : (inDatabase ceiling db rows).recordOutcome id change = (.recorded (.ok ()),
        inDatabase ceiling db (rows.map fun row => if row.id = id then change row else row)) :=
      if_pos hany
    exact ⟨_, _, hm.trans hmemory, hd.trans hdatabase, ht.map hid hp, [],
      by rw [ids_map hid, List.append_nil], List.nil_sublist _⟩
  · have hmemory : (inMemory ceiling rows).recordOutcome id change =
        (.recorded (.error (.notFound id)), inMemory ceiling rows) := if_neg hany
    have hdatabase : (inDatabase ceiling db rows).recordOutcome id change =
        (.recorded (.error (.notFound id)), inDatabase ceiling db rows) := if_neg hany
    exact ⟨_, rows, agree_of_same ceiling db ht (hm.trans hmemory) (hd.trans hdatabase)⟩

/-- The storages agree on every plain operation. -/
theorem exists_agree {entry : Entry} (ht : Tidy rows) (hp : entry.Plain)
    (hids : (rows.map (·.id) ++ entry.operation.accepted.map (·.id)).Nodup) :
    ∃ answer rows', Agree ceiling db entry rows answer rows' := by
  obtain ⟨operation, now, databaseNow⟩ := entry
  cases operation with
  | transact drafts commits => exact ⟨_, agree_transact ceiling db drafts commits ht hp hids⟩
  | claim limit =>
    obtain ⟨claimed, h⟩ := agree_claim ceiling db limit ht hp.clock
    exact ⟨_, rows, h⟩
  | markSent id =>
    refine agree_record ceiling db id ht (perform_markSent id databaseNow ht trivial)
      (perform_markSent id databaseNow ht hp.clock) (Row.markSent_id now) fun row _ hs => ?_
    exact absurd (Row.markSent_status now row) hs
  | markFailed id reason =>
    have hr := hp.reason id reason rfl
    refine agree_record ceiling db id ht (perform_markFailed id databaseNow ht trivial hr)
      (perform_markFailed id databaseNow ht hp.clock hr) (Row.markFailed_id now reason) ?_
    intro row hunprocessed hs
    have hs := mt (Row.markFailed_status_iff row now reason).mpr hs
    simp [Row.markFailed, hs, hunprocessed hs]
  | get id => exact ⟨_, rows, agree_of_same ceiling db ht rfl rfl⟩

/-- With the same tidy rows, the storages have the same history of every plain script whose accepted
drafts have identifiers of their own. -/
theorem history_eq_of_tidy (script : List Entry) (ht : Tidy rows)
    (hp : ∀ entry ∈ script, entry.Plain)
    (hids : (rows.map (·.id) ++ (script.flatMap (·.operation.accepted)).map (·.id)).Nodup) :
    (inMemory ceiling rows).history script = (inDatabase ceiling db rows).history script := by
  induction script generalizing rows with
  | nil => rfl
  | cons entry script ih =>
    rw [List.flatMap_cons, List.map_append, ← List.append_assoc] at hids
    obtain ⟨answer, rows', h⟩ :=
      exists_agree ceiling db ht (hp entry List.mem_cons_self) (List.nodup_append.mp hids).1
    obtain ⟨added, hrows', hadded⟩ := h.ids
    have hrest := ih h.tidy (fun other hm => hp other (List.mem_cons_of_mem _ hm)) (by
      rw [hrows']
      exact hids.sublist ((hadded.append_left _).append_right _))
    rw [history_cons, history_cons, record, record, h.memory, h.database, hrest]

end Agreement

/-- From an empty outbox, a store in memory and a database that claims by reading alone, with the
same ceiling on attempts, answer every script alike. -/
theorem memory_refines_database (ceiling : Option Int) {db : Database} (hempty : db.outbox = [])
    {script : List Entry} (hp : ∀ entry ∈ script, entry.Plain)
    (hids : ((script.flatMap (·.operation.accepted)).map (·.id)).Nodup) :
    (Storage.memory (.empty ceiling)).history script =
      (Storage.database db .shared ceiling).history script := by
  have hdb : Storage.database db .shared ceiling = inDatabase ceiling db [] := by
    rw [inDatabase, ← hempty]
  rw [hdb]
  exact history_eq_of_tidy ceiling db script ⟨.nil, fun _ hm => nomatch hm⟩ hp hids

/-- The draft of an event whose texts fit. -/
def welcome : Draft :=
  ⟨Uuid.reserved 0, some "request", "employee", "7", "employee.created", "hr", [123, 125], .pending⟩

/-- A transaction in which one of two drafts is refused, a failed attempt, an unknown identifier and
a look-up. -/
def mixedCalls : List Entry :=
  [⟨.transact [welcome, { welcome with topic := " " }] true, ⟨0, 1000⟩, ⟨0, 1000⟩⟩,
    ⟨.claim 5, ⟨1, 0⟩, ⟨1, 0⟩⟩, ⟨.markFailed welcome.id "down", ⟨2, 0⟩, ⟨2, 0⟩⟩,
    ⟨.markSent (Uuid.reserved 1), ⟨3, 0⟩, ⟨3, 0⟩⟩, ⟨.get welcome.id, ⟨4, 0⟩, ⟨4, 0⟩⟩]

/-- The texts and the instants of these calls are stored as they are. -/
theorem plain_mixedCalls : ∀ entry ∈ mixedCalls, entry.Plain := by
  have hfits : welcome.Fits := by
    constructor
    · intro s hs
      cases hs
      decide
    all_goals decide
  intro entry hm
  have hclock : Database.Exact entry.now ∧ entry.databaseNow = entry.now := by
    revert entry
    decide
  constructor
  case texts =>
    have honly : ∀ draft ∈ entry.operation.accepted, draft = welcome := by
      revert entry
      decide
    exact fun draft hd => honly draft hd ▸ hfits
  case reason =>
    intro id reason hop
    have honly : reason = "down" := by
      simp only [mixedCalls, List.mem_cons, List.not_mem_nil, or_false] at hm
      rcases hm with rfl | rfl | rfl | rfl | rfl <;> cases hop
      rfl
    rw [honly]
    decide
  case clock => exact hclock.1
  case databaseClock => exact fun _ _ => hclock.2

/-- Both storages answer these calls alike. -/
theorem memory_refines_database_mixedCalls :
    (∀ entry ∈ mixedCalls, entry.Plain) ∧
      (Storage.memory (.empty (some 3))).history mixedCalls =
        (Storage.database .empty .shared (some 3)).history mixedCalls :=
  ⟨plain_mixedCalls, memory_refines_database (some 3) rfl plain_mixedCalls (by decide)⟩

end Storage
end HrPipeline
