import HrPipeline.Api.Operations

/-!
# Transactions by their statements

A session sends statements over a connection, and any of them may fail for a reason of its own. In
a transaction the statements work on tables of their own, which replace the committed ones when the
commit goes through; after a failure they are dropped. A session `CarriesOut` a change of the
tables if it succeeds only by making the change, and makes it if no statement fails. Such a session
in a transaction makes the whole change or none.
-/

namespace HrPipeline.Api

/-- What fails: the pool may have no connection, and the statement with a number may not go
through. -/
structure Outage where
  connection : Option String
  statement : Nat → Option DatabaseError

/-- Nothing fails. -/
def Outage.none : Outage := ⟨Option.none, fun _ => Option.none⟩

/-- A connection with the committed tables and those of an open transaction. -/
structure Connection where
  committed : Database
  working : Option Database
  /-- The number of statements sent so far. -/
  sent : Nat

/-- A sequence of statements that gives a value or is refused. -/
def Session (α : Type) : Type := Outage → Connection → Except ApiError α × Connection

namespace Session

variable {α β : Type}

/-- Gives a value without a statement. -/
def done (a : α) : Session α := fun _ c => (.ok a, c)

/-- Gives the result of a check, which needs no statement. -/
def check (result : Except ApiError α) : Session α := fun _ c => (result, c)

/-- Sends a statement, which takes effect on the tables of the open transaction or, without one,
on the committed ones. -/
def send (effect : Database → Except DatabaseError (α × Database)) : Session α := fun outage c =>
  let after := { c with sent := c.sent + 1 }
  match outage.statement c.sent with
  | some error => (.error (.ofDatabase error), after)
  | none =>
    match effect (c.working.getD c.committed) with
    | .error error => (.error (.ofDatabase error), after)
    | .ok (a, db) =>
      (.ok a, if c.working.isSome then { after with working := some db }
        else { after with committed := db })

/-- A session followed by another one that depends on its value. -/
def andThen (first : Session α) (next : α → Session β) : Session β := fun outage c =>
  match first outage c with
  | (.error error, c) => (.error error, c)
  | (.ok a, c) => next a outage c

/-- Opens a transaction. -/
def start : Session Unit := fun outage c =>
  match outage.statement c.sent with
  | some error => (.error (.ofDatabase error), { c with sent := c.sent + 1 })
  | none => (.ok (), { c with working := some c.committed, sent := c.sent + 1 })

/-- Commits the open transaction. -/
def commit : Session Unit := fun outage c =>
  match outage.statement c.sent with
  | some error => (.error (.ofDatabase error), { c with sent := c.sent + 1 })
  | none => (.ok (), ⟨c.working.getD c.committed, none, c.sent + 1⟩)

/-- The failure that is told after the rollback: its own, if it has one. -/
def rolledBack (outage : Outage) (c : Connection) (error : ApiError) : ApiError :=
  ((outage.statement c.sent).map .ofDatabase).getD error

/-- Drops the open transaction after a failure. If the rollback fails as well, the connection is
given up, and the database drops the transaction by itself. -/
def orRollback (session : Session α) : Session α := fun outage c =>
  match session outage c with
  | (.error error, c) =>
    (.error (rolledBack outage c error), { c with working := none, sent := c.sent + 1 })
  | (.ok a, c) => (.ok a, c)

/-- A session within a transaction. -/
def transaction (session : Session α) : Session α :=
  start.andThen fun _ => (session.andThen fun a => commit.andThen fun _ => done a).orRollback

/-- Runs a session on a connection to a storage and gives the storage that it leaves behind. -/
def onStorage (session : Session α) (outage : Outage) (storage : Storage) :
    Except ApiError α × Storage :=
  match outage.connection with
  | some reason => (.error (.ofOutbox (.pool reason)), storage)
  | none =>
    match storage.tables? with
    | none => (.error (.ofOutbox Storage.noConnection), storage)
    | some db =>
      let (result, c) := session outage ⟨db, none, 0⟩
      (result, storage.withTables c.committed)

/-- Within a transaction, a session keeps the committed tables, succeeds only by making a change to
the transaction's own tables, and does what the change does if no statement fails. -/
structure CarriesOut (session : Session α)
    (change : Database → Except ApiError (α × Database)) : Prop where
  kept : ∀ outage c db, c.working = some db → (session outage c).2.committed = c.committed
  made : ∀ outage c db a, c.working = some db → (session outage c).1 = .ok a →
    ∃ after, change db = .ok (a, after) ∧ (session outage c).2.working = some after
  whole : ∀ c db, c.working = some db →
    (session .none c).1 = (change db).map Prod.fst

theorem carriesOut_done (a : α) : CarriesOut (done a) fun db => .ok (a, db) where
  kept _ _ _ _ := rfl
  made _ _ db _ hc h := ⟨db, by rw [Except.ok.inj h], hc⟩
  whole _ _ _ := rfl

theorem carriesOut_check (result : Except ApiError α) :
    CarriesOut (check result) fun db => result.map fun a => (a, db) where
  kept _ _ _ _ := rfl
  made _ _ db a hc h := by
    refine ⟨db, ?_, hc⟩
    have hr : result = .ok a := h
    rw [hr]
    rfl
  whole _ _ _ := by
    show result = _
    cases result <;> rfl

/-- A statement carries out its effect. -/
theorem carriesOut_send (effect : Database → Except DatabaseError (α × Database)) :
    CarriesOut (send effect) fun db => (effect db).mapError .ofDatabase where
  kept outage c db hc := by
    unfold send
    split
    · rfl
    · split
      · rfl
      · simp [hc]
  made outage c db a hc h := by
    unfold send at h ⊢
    cases ho : outage.statement c.sent with
    | some error => simp [ho] at h
    | none =>
      simp only [ho, hc, Option.getD_some, Option.isSome_some, if_true] at h ⊢
      cases he : effect db with
      | error error => simp [he] at h
      | ok result =>
        simp only [he, Except.ok.injEq] at h ⊢
        exact ⟨result.2, by rw [← h]; rfl, rfl⟩
  whole c db hc := by
    unfold send
    simp only [Outage.none, hc, Option.getD_some]
    cases effect db with
    | error error => rfl
    | ok result => rfl

/-- Sessions carry out their changes one after the other. -/
theorem CarriesOut.andThen {first : Session α} {next : α → Session β}
    {change : Database → Except ApiError (α × Database)}
    {later : α → Database → Except ApiError (β × Database)} (hfirst : CarriesOut first change)
    (hnext : ∀ a, CarriesOut (next a) (later a)) :
    CarriesOut (first.andThen next) fun db => change db >>= fun result =>
      later result.1 result.2 where
  kept outage c db hc := by
    have hkept := hfirst.kept outage c db hc
    have hmade := hfirst.made outage c db
    unfold Session.andThen
    cases hr : first outage c with
    | mk result after =>
      rw [hr] at hkept hmade
      cases result with
      | error error => exact hkept
      | ok a =>
        obtain ⟨db', -, hafter⟩ := hmade a hc rfl
        exact ((hnext a).kept outage after db' hafter).trans hkept
  made outage c db b hc h := by
    have hmade := hfirst.made outage c db
    unfold Session.andThen at h ⊢
    cases hr : first outage c with
    | mk result after =>
      rw [hr] at hmade
      simp only [hr] at h ⊢
      cases result with
      | error error => cases h
      | ok a =>
        obtain ⟨db', hchange, hafter⟩ := hmade a hc rfl
        obtain ⟨db'', hlater, hend⟩ := (hnext a).made outage after db' b hafter h
        refine ⟨db'', ?_, hend⟩
        simp only [hchange, bind, Except.bind, hlater]
  whole c db hc := by
    have hmade := hfirst.made .none c db
    have hwhole := hfirst.whole c db hc
    unfold Session.andThen
    cases hr : first .none c with
    | mk result after =>
      rw [hr] at hmade hwhole
      cases result with
      | error error =>
        cases hchange : change db with
        | error error' =>
          rw [hchange] at hwhole
          obtain rfl : error = error' := Except.error.inj hwhole
          rfl
        | ok pair =>
          rw [hchange] at hwhole
          cases hwhole
      | ok a =>
        obtain ⟨db', hchange, hafter⟩ := hmade a hc rfl
        simp only [hchange, bind, Except.bind]
        exact (hnext a).whole after db' hafter

theorem withTables_self {storage : Storage} {db : Database} (h : storage.tables? = some db) :
    storage.withTables db = storage := by
  cases storage with
  | memory store => rfl
  | database db' mode maxAttempts =>
    obtain rfl : db' = db := Option.some.inj h
    rfl
  | unreachable => rfl

/-- A transaction from its start to its commit. -/
private theorem transaction_eq (session : Session α) (outage : Outage) (db : Database) :
    session.transaction outage ⟨db, none, 0⟩ =
      match outage.statement 0 with
      | some error => (.error (.ofDatabase error), ⟨db, none, 1⟩)
      | none =>
        match session outage ⟨db, some db, 1⟩ with
        | (.error error, c) =>
          (.error (rolledBack outage c error), { c with working := none, sent := c.sent + 1 })
        | (.ok a, c) =>
          match outage.statement c.sent with
          | some error =>
            (.error (rolledBack outage { c with sent := c.sent + 1 } (.ofDatabase error)),
              { c with working := none, sent := c.sent + 2 })
          | none => (.ok a, ⟨c.working.getD c.committed, none, c.sent + 1⟩) := by
  unfold Session.transaction start orRollback Session.andThen commit done
  cases hs : outage.statement 0 with
  | some error => simp [hs]
  | none =>
    simp only [hs]
    cases hr : session outage ⟨db, some db, 1⟩ with
    | mk result c =>
      cases result with
      | error error => rfl
      | ok a =>
        cases hc : outage.statement c.sent with
        | some error => simp only [hc]
        | none => simp only [hc]

/-- A transaction that is refused leaves the committed tables, and one that succeeds replaces them
by what its session made of them. -/
theorem CarriesOut.transaction {session : Session α}
    {change : Database → Except ApiError (α × Database)} (h : CarriesOut session change)
    (outage : Outage) (db : Database) :
    (∃ error, (session.transaction outage ⟨db, none, 0⟩).1 = .error error ∧
      (session.transaction outage ⟨db, none, 0⟩).2.committed = db) ∨
    ∃ a after, change db = .ok (a, after) ∧
      (session.transaction outage ⟨db, none, 0⟩).1 = .ok a ∧
      (session.transaction outage ⟨db, none, 0⟩).2.committed = after := by
  have hkept := h.kept outage ⟨db, some db, 1⟩ db rfl
  have hmade := h.made outage ⟨db, some db, 1⟩ db
  rw [transaction_eq]
  cases outage.statement 0 with
  | some error => exact .inl ⟨.ofDatabase error, rfl, rfl⟩
  | none =>
    cases hr : session outage ⟨db, some db, 1⟩ with
    | mk result c =>
      rw [hr] at hkept hmade
      cases result with
      | error error => exact .inl ⟨_, rfl, hkept⟩
      | ok a =>
        obtain ⟨after, hchange, hafter⟩ := hmade a rfl rfl
        simp only
        cases outage.statement c.sent with
        | some error => exact .inl ⟨_, rfl, hkept⟩
        | none =>
          refine .inr ⟨a, after, hchange, rfl, ?_⟩
          show c.working.getD c.committed = after
          rw [hafter, Option.getD_some]

/-- Without any failure, a transaction succeeds exactly if its change does. -/
theorem CarriesOut.transaction_whole {session : Session α}
    {change : Database → Except ApiError (α × Database)} (h : CarriesOut session change)
    (db : Database) :
    (session.transaction .none ⟨db, none, 0⟩).1 = (change db).map Prod.fst := by
  rw [← h.whole ⟨db, some db, 1⟩ db rfl, transaction_eq]
  cases session .none ⟨db, some db, 1⟩ with
  | mk result c => cases result <;> simp [Outage.none, rolledBack]

/-- A session in a transaction makes its whole change, or it is refused and changes nothing. -/
theorem CarriesOut.onStorage {session : Session α}
    {change : Database → Except ApiError (α × Database)} (h : CarriesOut session change)
    (outage : Outage) (storage : Storage) :
    (∃ error, session.transaction.onStorage outage storage = (.error error, storage)) ∨
      ∃ db a after, storage.tables? = some db ∧ change db = .ok (a, after) ∧
        session.transaction.onStorage outage storage = (.ok a, storage.withTables after) := by
  unfold Session.onStorage
  cases outage.connection with
  | some reason => exact .inl ⟨_, rfl⟩
  | none =>
    cases ht : storage.tables? with
    | none => exact .inl ⟨_, rfl⟩
    | some db =>
      rcases h.transaction outage db with ⟨error, hr, hc⟩ | ⟨a, after, hchange, hr, hc⟩
      · refine .inl ⟨error, ?_⟩
        simp only [hr, hc, withTables_self ht]
      · refine .inr ⟨db, a, after, rfl, hchange, ?_⟩
        simp only [hr, hc]

/-- Without any failure, a session in a transaction does what its change does. -/
theorem CarriesOut.transact_eq {session : Session α}
    {change : Database → Except ApiError (α × Database)} (h : CarriesOut session change)
    (storage : Storage) :
    session.transaction.onStorage .none storage =
      match transact storage change with
      | .error error => (.error error, storage)
      | .ok (a, after) => (.ok a, after) := by
  unfold transact
  cases ht : storage.tables? with
  | none => simp [Session.onStorage, Outage.none, ht]
  | some db =>
    have hwhole := h.transaction_whole db
    rcases h.transaction .none db with ⟨error, hr, hc⟩ | ⟨a, after, hchange, hr, hc⟩
    · cases hchange : change db with
      | ok result =>
        rw [hr, hchange] at hwhole
        cases hwhole
      | error error' =>
        rw [hr, hchange] at hwhole
        obtain rfl : error = error' := Except.error.inj hwhole
        simp only [Session.onStorage, Outage.none, ht] at hr hc ⊢
        simp [hr, hc, hchange, withTables_self ht, Except.map]
    · simp only [Session.onStorage, Outage.none, ht] at hr hc ⊢
      simp [hr, hc, hchange, Except.map]

end Session
end HrPipeline.Api
