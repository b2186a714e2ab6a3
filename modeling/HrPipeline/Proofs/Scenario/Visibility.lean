import HrPipeline.Proofs.Scenario.WorldOutlet
import Mathlib.Data.List.Perm.Basic
import Mathlib.Data.List.Perm.Subperm

/-!
# What transactions make visible

Any number of transactions are open on a store in memory, each under a name of its own, while rows
are claimed and attempts recorded. A chronicle tells what was asked and answered. From it alone,
`committed` tells the events that are visible: those of the committed transactions, one transaction
after the other in the order of the commits, each with all the events that it took. The invariant
`Accounted` says that the rows of the store are these, and what each open transaction holds.
-/

namespace HrPipeline.Scenario

open HrPipeline.Calendar HrPipeline.Outbox

section Named

variable {α : Type} (name other : String) (value : α) (entries : List (String × α))

theorem lookup_dropNamed :
    (dropNamed name entries).lookup other =
      if other = name then none else entries.lookup other := by
  unfold dropNamed
  induction entries with
  | nil => simp
  | cons entry entries ih =>
    obtain ⟨key, kept⟩ := entry
    by_cases hk : key = name
    · subst hk
      rw [List.filter_cons_of_neg (by simp), ih]
      by_cases ho : other = key
      · simp [ho]
      · simp [ho, List.lookup_cons, beq_eq_false_iff_ne.mpr ho]
    · rw [List.filter_cons_of_pos (by simpa using hk), List.lookup_cons, List.lookup_cons, ih]
      by_cases ho : other = key
      · subst ho
        simp [hk]
      · simp [beq_eq_false_iff_ne.mpr ho]

theorem lookup_setNamed :
    (setNamed name value entries).lookup other =
      if other = name then some value else entries.lookup other := by
  rw [setNamed, List.lookup_cons]
  by_cases ho : other = name
  · simp [ho]
  · rw [beq_eq_false_iff_ne.mpr ho, if_neg ho]
    exact (lookup_dropNamed name other entries).trans (if_neg ho)

end Named

/-- What is asked of a store and its transactions, with the answer. -/
inductive Act where
  | begin (name : String)
  | enlist (name : String) (draft : Draft) (result : Except OutboxError Uuid)
  | commit (name : String)
  | drop (name : String)
  | claim (limit : Int) (result : Except OutboxError (List Row))
  | markSent (id : Uuid) (result : Except OutboxError Unit)
  | markFailed (id : Uuid) (reason : String) (result : Except OutboxError Unit)
  | get (id : Uuid) (result : Except OutboxError (Option Row))

namespace Act

/-- The transaction that is asked something. -/
def transaction? : Act → Option String
  | begin name | enlist name _ _ | commit name | drop name => some name
  | claim _ _ | markSent _ _ | markFailed _ _ _ | get _ _ => none

/-- The transaction that is committed. -/
def commits? : Act → Option String
  | commit name => some name
  | begin _ | enlist _ _ _ | drop _ | claim _ _ | markSent _ _ | markFailed _ _ _ | get _ _ => none

/-- The event that a transaction takes. -/
def enlists? (name : String) : Act → Option Draft
  | enlist other draft (.ok _) => if other = name then some draft else none
  | enlist _ _ (.error _) | begin _ | commit _ | drop _ | claim _ _ | markSent _ _
  | markFailed _ _ _ | get _ _ => none

/-- The result of an attempt is recorded for an identifier. -/
def Marks (id : Uuid) (act : Act) : Prop :=
  act = markSent id (.ok ()) ∨ ∃ reason, act = markFailed id reason (.ok ())

end Act

/-- Something that was asked and answered. -/
structure Occurrence where
  act : Act
  /-- The reading of the clock. -/
  now : Instant

/-- A commit, with all that came after it. -/
structure Commit where
  name : String
  now : Instant
  later : List Occurrence

/-- An event that a commit made visible. -/
structure Visible where
  draft : Draft
  commit : Commit

/-- The commits in order. -/
def commits : List Occurrence → List Commit
  | [] => []
  | occurrence :: later =>
    (occurrence.act.commits?.map (⟨·, occurrence.now, later⟩)).toList ++ commits later

/-- The events that a transaction took, in order. -/
def enlisted (name : String) (journal : List Occurrence) : List Draft :=
  journal.filterMap (·.act.enlists? name)

/-- The events of the committed transactions, in the order of the commits. -/
def committed (journal : List Occurrence) : List Visible :=
  (commits journal).flatMap fun commit => (enlisted commit.name journal).map (⟨·, commit⟩)

/-- A row is what has become of a visible event: it has the fields of the event, apart from the
status, and the time of the commit, and it is as new as long as nothing was recorded for it. -/
structure Visible.Becomes (event : Visible) (row : Row) : Prop where
  fields : row.toDraft = { event.draft with status := row.status }
  createdAt : row.createdAt = event.commit.now
  untouched : (∀ occurrence ∈ event.commit.later, ¬ occurrence.act.Marks row.id) →
    row = Row.ofDraft event.draft event.commit.now

/-- Rows are what has become of some of the events that are visible after a journal, no event
counted twice. -/
def Stem (journal : List Occurrence) (rows : List Row) : Prop :=
  ∃ events, List.Subperm events (committed journal) ∧ List.Forall₂ Visible.Becomes events rows

/-- A commit when something more has happened. -/
def Commit.followedBy (occurrence : Occurrence) (commit : Commit) : Commit :=
  { commit with later := commit.later ++ [occurrence] }

/-- A visible event when something more has happened. -/
def Visible.followedBy (occurrence : Occurrence) (event : Visible) : Visible :=
  { event with commit := event.commit.followedBy occurrence }

section Journals

variable (journal : List Occurrence) (occurrence : Occurrence)

theorem commits_concat :
    commits (journal ++ [occurrence]) =
      (commits journal).map (·.followedBy occurrence) ++
        (occurrence.act.commits?.map (⟨·, occurrence.now, []⟩)).toList := by
  induction journal with
  | nil => simp [commits]
  | cons first journal ih =>
    rw [List.cons_append, commits, commits, ih]
    cases first.act.commits? <;> simp [Commit.followedBy]

/-- The names of the transactions that were committed. -/
theorem names_commits : (commits journal).map (·.name) = journal.filterMap (·.act.commits?) := by
  induction journal with
  | nil => rfl
  | cons first journal ih =>
    rw [commits, List.map_append, ih]
    cases hc : first.act.commits? <;> simp [hc]

theorem names_commits_concat :
    (commits (journal ++ [occurrence])).map (·.name) =
      (commits journal).map (·.name) ++ occurrence.act.commits?.toList := by
  rw [names_commits, names_commits, List.filterMap_append]
  cases hc : occurrence.act.commits? <;> simp [hc]

theorem enlisted_concat (name : String) :
    enlisted name (journal ++ [occurrence]) =
      enlisted name journal ++ (occurrence.act.enlists? name).toList := by
  rw [enlisted, List.filterMap_append]
  cases h : occurrence.act.enlists? name <;> simp [enlisted, h]

variable {journal occurrence}

/-- What an occurrence makes visible if it adds nothing to the transactions committed before. -/
theorem committed_concat
    (h : ∀ commit ∈ commits journal, occurrence.act.enlists? commit.name = none) :
    committed (journal ++ [occurrence]) =
      (committed journal).map (·.followedBy occurrence) ++
        occurrence.act.commits?.toList.flatMap fun name =>
          (enlisted name (journal ++ [occurrence])).map (⟨·, name, occurrence.now, []⟩) := by
  have hold : ((commits journal).map (·.followedBy occurrence)).flatMap (fun commit =>
      (enlisted commit.name (journal ++ [occurrence])).map (Visible.mk · commit)) =
      (committed journal).map (·.followedBy occurrence) := by
    rw [committed, List.map_flatMap, List.flatMap_map]
    refine List.flatMap_congr fun commit hm => ?_
    rw [show (commit.followedBy occurrence).name = commit.name from rfl, enlisted_concat,
      h commit hm]
    simp [Visible.followedBy]
  rw [committed, commits_concat, List.flatMap_append, hold]
  cases occurrence.act.commits? <;> simp

end Journals

namespace Visible.Becomes

variable {event : Visible} {row : Row} {occurrence : Occurrence}

/-- A row has the identifier of its event. -/
theorem id_eq (h : event.Becomes row) : row.id = event.draft.id := by
  have hid := congrArg Draft.id h.fields
  exact hid

/-- A row is as valid as its event. -/
theorem check_eq (h : event.Becomes row) : row.toDraft.check = event.draft.check := by
  rw [h.fields]
  rfl

/-- Whatever else happens, a row that nothing is recorded for remains what it is. -/
theorem followed (h : event.Becomes row) : (event.followedBy occurrence).Becomes row where
  fields := h.fields
  createdAt := h.createdAt
  untouched hlater := h.untouched fun other hm => hlater other (List.mem_append_left _ hm)

/-- A record changes the history of a row, and nothing else. -/
theorem marked (h : event.Becomes row) {changed : Row} (hid : changed.id = row.id)
    (hmarks : occurrence.act.Marks row.id)
    (hfields : changed.toDraft = { row.toDraft with status := changed.status })
    (hcreated : changed.createdAt = row.createdAt) :
    (event.followedBy occurrence).Becomes changed where
  fields := by rw [hfields, h.fields]; rfl
  createdAt := hcreated.trans h.createdAt
  untouched hlater := by
    refine absurd (hid ▸ hmarks) (hlater occurrence ?_)
    exact List.mem_append_right _ (List.mem_singleton_self occurrence)

end Visible.Becomes

/-- Rows that are chosen from those of the visible events stem from such events. -/
theorem stem_of_subperm {journal : List Occurrence} {rows chosen : List Row}
    (hr : List.Forall₂ Visible.Becomes (committed journal) rows) (hc : List.Subperm chosen rows) :
    Stem journal chosen := by
  obtain ⟨part, hperm, hsub⟩ := hc
  obtain ⟨events, hevents, hpart⟩ := exists_sublist_of_forall₂ hr hsub
  obtain ⟨sorted, hsorted, hsame⟩ := List.perm_comp_forall₂ hperm.symm hpart.flip
  exact ⟨sorted, ⟨events, hsame.symm, hevents⟩, hsorted.flip⟩

/-- A store selects each of its rows at most once. -/
theorem subperm_claim (store : Store) (limit : Int) (now : Instant) :
    List.Subperm (store.claim limit now) store.rows := by
  have hsorted : (oldestFirst (store.rows.filter (·.isEligible store.maxAttempts now))).Perm
      (store.rows.filter (·.isEligible store.maxAttempts now)) := List.mergeSort_perm _ _
  have htaken := (List.take_sublist limit.toNat (oldestFirst
    (store.rows.filter (·.isEligible store.maxAttempts now)))).subperm
  exact (htaken.trans hsorted.subperm).trans List.filter_sublist.subperm

/-- The rows are those of the visible events, and the open transactions hold what they took. -/
structure Accounted (rows : List Row) (opened : List (String × Transaction))
    (journal : List Occurrence) : Prop where
  rows : List.Forall₂ Visible.Becomes (committed journal) rows
  staged : ∀ name transaction, opened.lookup name = some transaction →
    transaction.staged = enlisted name journal
  /-- A transaction that was committed is open no more. -/
  closed : ∀ name ∈ (commits journal).map (·.name), opened.lookup name = none
  valid : ∀ name, ∀ draft ∈ enlisted name journal, draft.check = .ok ()
  claims : ∀ before limit claimed now later,
    journal = before ++ ⟨.claim limit (.ok claimed), now⟩ :: later → Stem before claimed

namespace Accounted

variable {rows rows' : List Row} {opened opened' : List (String × Transaction)}
  {journal : List Occurrence} {occurrence : Occurrence}

theorem start : Accounted [] [] [] where
  rows := .nil
  staged := by simp
  closed := by simp [commits]
  valid := by simp [enlisted]
  claims := by simp

/-- The claims of a journal with one occurrence more. -/
private theorem claims_concat (h : Accounted rows opened journal)
    (hclaim : ∀ limit claimed, occurrence.act = .claim limit (.ok claimed) → Stem journal claimed) :
    ∀ before limit claimed now later,
      journal ++ [occurrence] = before ++ ⟨.claim limit (.ok claimed), now⟩ :: later →
        Stem before claimed := by
  intro before limit claimed now later hsplit
  rcases split_concat hsplit with ⟨rfl, rfl⟩ | ⟨between, hbetween⟩
  · exact hclaim limit claimed rfl
  · exact h.claims before limit claimed now between hbetween

/-- Something happens that neither commits a transaction nor adds to one. -/
theorem quiet (h : Accounted rows opened journal) (hcommits : occurrence.act.commits? = none)
    (henlists : ∀ name, occurrence.act.enlists? name = none)
    (hrows : List.Forall₂ Visible.Becomes ((committed journal).map (·.followedBy occurrence)) rows')
    (hopened : ∀ name, opened'.lookup name = none ∨ opened'.lookup name = opened.lookup name ∨
      opened'.lookup name = some .empty ∧ enlisted name journal = [] ∧
        name ∉ (commits journal).map (·.name))
    (hclaim : ∀ limit claimed, occurrence.act = .claim limit (.ok claimed) → Stem journal claimed) :
    Accounted rows' opened' (journal ++ [occurrence]) := by
  have hsame : ∀ name, enlisted name (journal ++ [occurrence]) = enlisted name journal := by
    intro name
    rw [enlisted_concat, henlists name, Option.toList_none, List.append_nil]
  constructor
  case rows =>
    rw [committed_concat fun commit _ => henlists commit.name, hcommits]
    simpa using hrows
  case staged =>
    intro name transaction ho
    rw [hsame]
    rcases hopened name with hn | hn | ⟨hn, he, -⟩ <;> rw [hn] at ho
    · cases ho
    · exact h.staged name transaction ho
    · obtain rfl := Option.some.inj ho
      exact he.symm
  case closed =>
    intro name hm
    rw [names_commits_concat, hcommits, Option.toList_none, List.append_nil] at hm
    rcases hopened name with hn | hn | ⟨-, -, hn⟩
    · exact hn
    · rw [hn, h.closed name hm]
    · exact absurd hm hn
  case valid =>
    intro name
    rw [hsame]
    exact h.valid name
  case claims => exact h.claims_concat hclaim

/-- Something happens that changes no row. -/
theorem followed (h : Accounted rows opened journal) :
    List.Forall₂ Visible.Becomes ((committed journal).map (·.followedBy occurrence)) rows :=
  List.forall₂_map_left_iff.mpr (h.rows.imp fun _ _ hrow => hrow.followed)

/-- A record of an attempt changes the first row with the identifier. -/
theorem marked (h : Accounted rows opened journal) {id : Uuid} {change : Row → Row}
    (hid : ∀ row, (change row).id = row.id)
    (hfields : ∀ row, (change row).toDraft = { row.toDraft with status := (change row).status })
    (hcreated : ∀ row, (change row).createdAt = row.createdAt)
    (hmarks : occurrence.act.Marks id) (hu : updateFirst (·.id = id) change rows = some rows') :
    List.Forall₂ Visible.Becomes ((committed journal).map (·.followedBy occurrence)) rows' := by
  rw [List.forall₂_map_left_iff]
  refine forall₂_updateFirst (fun event row hrow => hrow.followed) ?_ h.rows hu
  intro event row hrow hc
  obtain rfl : row.id = id := of_decide_eq_true hc
  exact hrow.marked (hid row) hmarks (hfields row) (hcreated row)

/-- An open transaction takes an event. -/
theorem enlist (h : Accounted rows opened journal) {name : String} {transaction : Transaction}
    {draft : Draft} (ho : opened.lookup name = some transaction) (hd : draft.check = .ok ())
    (id : Uuid) (now : Instant) :
    Accounted rows (setNamed name ⟨transaction.staged ++ [draft]⟩ opened)
      (journal ++ [⟨.enlist name draft (.ok id), now⟩]) := by
  have hopen : name ∉ (commits journal).map (·.name) := by
    intro hm
    rw [h.closed name hm] at ho
    cases ho
  have henlisted : ∀ other,
      enlisted other (journal ++ [⟨.enlist name draft (.ok id), now⟩]) =
        if other = name then enlisted name journal ++ [draft] else enlisted other journal := by
    intro other
    rw [enlisted_concat]
    by_cases hn : other = name
    · subst hn
      simp [Act.enlists?]
    · simp [Act.enlists?, hn, Ne.symm hn]
  constructor
  case rows =>
    have hothers : ∀ commit ∈ commits journal,
        (Act.enlist name draft (.ok id)).enlists? commit.name = none := by
      intro commit hm
      exact if_neg fun he : name = commit.name => hopen (he ▸ List.mem_map_of_mem hm)
    rw [committed_concat hothers]
    simpa [Act.commits?] using h.followed
  case staged =>
    intro other transaction' ho'
    rw [lookup_setNamed] at ho'
    rw [henlisted]
    split
    · next hn =>
      rw [if_pos hn] at ho'
      obtain rfl := Option.some.inj ho'
      rw [h.staged name transaction ho]
    · next hn =>
      rw [if_neg hn] at ho'
      exact h.staged other transaction' ho'
  case closed =>
    intro other hm
    rw [names_commits_concat] at hm
    have hm : other ∈ (commits journal).map (·.name) := by simpa [Act.commits?] using hm
    rw [lookup_setNamed, if_neg fun he : other = name => hopen (he ▸ hm)]
    exact h.closed other hm
  case valid =>
    intro other
    rw [henlisted]
    split
    · exact List.forall_mem_append.mpr ⟨h.valid name, by simpa using hd⟩
    · exact h.valid other
  case claims => exact h.claims_concat (by simp)

/-- An open transaction is committed: what it took becomes visible. -/
theorem commit (h : Accounted rows opened journal) {name : String} {transaction : Transaction}
    (ho : opened.lookup name = some transaction) (now : Instant) :
    Accounted (rows ++ transaction.staged.map (Row.ofDraft · now)) (dropNamed name opened)
      (journal ++ [⟨.commit name, now⟩]) := by
  have hsame : ∀ other, enlisted other (journal ++ [⟨.commit name, now⟩]) =
      enlisted other journal := by
    intro other
    rw [enlisted_concat]
    exact List.append_nil _
  constructor
  case rows =>
    rw [committed_concat fun _ _ => rfl]
    refine List.rel_append h.followed ?_
    simp only [Act.commits?, Option.toList_some, List.flatMap_cons, List.flatMap_nil,
      List.append_nil, hsame, h.staged name transaction ho]
    rw [List.forall₂_map_left_iff, List.forall₂_map_right_iff, List.forall₂_same]
    exact fun draft _ => ⟨rfl, rfl, fun _ => rfl⟩
  case staged =>
    intro other transaction' ho'
    rw [hsame]
    rw [lookup_dropNamed] at ho'
    split at ho'
    · cases ho'
    · exact h.staged other transaction' ho'
  case closed =>
    intro other hm
    rw [lookup_dropNamed]
    split
    · rfl
    · next hn =>
      rw [names_commits_concat, List.mem_append] at hm
      rcases hm with hm | hm
      · exact h.closed other hm
      · exact absurd (List.mem_singleton.mp hm) hn
  case valid =>
    intro other
    rw [hsame]
    exact h.valid other
  case claims => exact h.claims_concat (by simp)

end Accounted

namespace World

variable {world : World} {store : Store}

/-- A transaction is open under a name. -/
def IsOpen (name : String) (world : World) : Prop := (world.transactions.lookup name).isSome = true

instance (name : String) (world : World) : Decidable (world.IsOpen name) :=
  inferInstanceAs (Decidable (_ = true))

/-- The event of an item that is enlisted now. -/
def draftOf (item : Item) (world : World) : Draft := item.draft world.clock world.issue.1

/-- An open transaction takes an event that passes its check, and no other one. -/
theorem add_cases {name : String} {transaction : Transaction}
    (ho : world.transactions.lookup name = some transaction) (item : Item) :
    (∃ error, world.add name item = (.error error, world.issue.2)) ∨
      (world.draftOf item).check = .ok () ∧
        world.add name item = (.ok (world.draftOf item).id, { world.issue.2 with
          transactions := setNamed name ⟨transaction.staged ++ [world.draftOf item]⟩
            world.transactions }) := by
  have hlookup : (world.issue.2.transactions.lookup name).getD .empty = transaction := by
    show (world.transactions.lookup name).getD .empty = transaction
    rw [ho, Option.getD_some]
  have hdraft : item.draft world.issue.2.clock world.issue.1 = world.draftOf item := rfl
  unfold add
  simp only [hlookup, hdraft, Transaction.enlist]
  cases (world.draftOf item).check with
  | error error => exact .inl ⟨error, rfl⟩
  | ok _ => exact .inr ⟨rfl, rfl⟩

/-- A record of an attempt changes the first row with the identifier, or nothing. -/
theorem keep_cases (id : Uuid) (change : Row → Row) :
    (∃ error, world.keep ((store.update id change).map .memory) = (.error error, world)) ∨
      ∃ rows, updateFirst (·.id = id) change store.rows = some rows ∧
        world.keep ((store.update id change).map .memory) =
          (.ok (), { world with storage := .memory { store with rows } }) := by
  unfold Store.update
  cases hr : updateFirst (·.id = id) change store.rows with
  | none => exact .inl ⟨_, rfl⟩
  | some rows => exact .inr ⟨rows, rfl, rfl⟩

/-- A commit closes the transaction. -/
theorem transactions_commitTransaction (name : String) :
    (world.commitTransaction name).transactions = dropNamed name world.transactions := by
  unfold commitTransaction
  cases world.storage <;> rfl

end World

/-- A world with what its store and its transactions have been asked. -/
structure Chronicle where
  world : World
  journal : List Occurrence

namespace Chronicle

/-- The rows of the store. -/
def rows (chronicle : Chronicle) : List Row := chronicle.world.storage.rows

/-- Something is asked and answered now, after which the world is another one. -/
def record (act : Act) (world : World) (chronicle : Chronicle) : Chronicle :=
  ⟨world, chronicle.journal ++ [⟨act, chronicle.world.clock⟩]⟩

variable (chronicle : Chronicle)

/-- A transaction is opened under a name. -/
def begin (name : String) : Chronicle :=
  chronicle.record (.begin name) (chronicle.world.begin name)

/-- An item is enlisted in a transaction. -/
def enlist (name : String) (item : Item) : Chronicle :=
  let answer := chronicle.world.add name item
  chronicle.record (.enlist name (chronicle.world.draftOf item) answer.1) answer.2

/-- A transaction is committed. -/
def commit (name : String) : Chronicle :=
  chronicle.record (.commit name) (chronicle.world.commitTransaction name)

/-- A transaction is dropped. -/
def drop (name : String) : Chronicle :=
  chronicle.record (.drop name) (chronicle.world.dropTransaction name)

/-- Rows are claimed. -/
def claim (limit : Int) : Chronicle :=
  let answer := chronicle.world.claimRows limit
  chronicle.record (.claim limit answer.1) answer.2

/-- An acceptance is recorded. -/
def markSent (id : Uuid) : Chronicle :=
  let answer := chronicle.world.recordSent id
  chronicle.record (.markSent id answer.1) answer.2

/-- A failure is recorded. -/
def markFailed (id : Uuid) (reason : String) : Chronicle :=
  let answer := chronicle.world.recordFailed id reason
  chronicle.record (.markFailed id reason answer.1) answer.2

/-- A row is looked up. -/
def get (id : Uuid) : Chronicle :=
  chronicle.record (.get id (chronicle.world.storage.get? id)) chronicle.world

/-- What can happen next. -/
inductive Step : Chronicle → Prop where
  /-- A transaction is opened, under a name that no other one has had. -/
  | begin (name : String)
      (hn : ∀ occurrence ∈ chronicle.journal, occurrence.act.transaction? ≠ some name) :
      Step (chronicle.begin name)
  | enlist (name : String) (item : Item) (ho : chronicle.world.IsOpen name) :
      Step (chronicle.enlist name item)
  | commit (name : String) (ho : chronicle.world.IsOpen name) : Step (chronicle.commit name)
  | drop (name : String) (ho : chronicle.world.IsOpen name) : Step (chronicle.drop name)
  | claim (limit : Int) : Step (chronicle.claim limit)
  | markSent (id : Uuid) : Step (chronicle.markSent id)
  | markFailed (id : Uuid) (reason : String) : Step (chronicle.markFailed id reason)
  | get (id : Uuid) : Step (chronicle.get id)
  /-- Anything but the store and the open transactions changes, such as the clock. -/
  | change (world : World) (hs : world.storage = chronicle.world.storage)
      (ht : world.transactions = chronicle.world.transactions) :
      Step { chronicle with world }

/-- What a store comes to that is empty at first, with no transaction open. -/
inductive Reachable (ceiling : Option Int) : Chronicle → Prop where
  | start (world : World) (hs : world.storage = .memory (.empty ceiling))
      (ht : world.transactions = []) : Reachable ceiling ⟨world, []⟩
  | step {chronicle chronicle' : Chronicle} (h : Reachable ceiling chronicle)
      (hs : Step chronicle chronicle') : Reachable ceiling chronicle'

variable {chronicle} {chronicle' : Chronicle} {ceiling : Option Int}

/-- What holds at all times. -/
structure Sound (ceiling : Option Int) (chronicle : Chronicle) : Prop where
  memory : chronicle.world.storage = .memory ⟨chronicle.rows, ceiling⟩
  accounted : Accounted chronicle.rows chronicle.world.transactions chronicle.journal

/-- The world after an answer, with the same rows or others. -/
private theorem Sound.of_accounted {rows : List Row} {world : World} {journal : List Occurrence}
    (hm : world.storage = .memory ⟨rows, ceiling⟩)
    (h : Accounted rows world.transactions journal) : Sound ceiling ⟨world, journal⟩ := by
  have hrows : Chronicle.rows ⟨world, journal⟩ = rows := by
    rw [Chronicle.rows, hm]
    rfl
  constructor
  · rw [hrows]
    exact hm
  · rw [hrows]
    exact h

/-- Nothing but a claim tells of claimed rows. -/
private theorem Sound.quiet (h : Sound ceiling chronicle) {act : Act} {world : World}
    (hm : world.storage = chronicle.world.storage) (hcommits : act.commits? = none)
    (henlists : ∀ name, act.enlists? name = none)
    (hclaim : ∀ limit claimed, act = .claim limit (.ok claimed) →
      Stem chronicle.journal claimed)
    (hopened : ∀ name, world.transactions.lookup name = none ∨
      world.transactions.lookup name = chronicle.world.transactions.lookup name ∨
      world.transactions.lookup name = some .empty ∧ enlisted name chronicle.journal = [] ∧
        name ∉ (commits chronicle.journal).map (·.name)) :
    Sound ceiling (chronicle.record act world) :=
  .of_accounted (hm.trans h.memory)
    (h.accounted.quiet hcommits henlists h.accounted.followed hopened hclaim)

/-- A record of an attempt, which has been refused or has changed a row. -/
private theorem Sound.keep (h : Sound ceiling chronicle) {id : Uuid} {change : Row → Row}
    (hid : ∀ row, (change row).id = row.id)
    (hfields : ∀ row, (change row).toDraft = { row.toDraft with status := (change row).status })
    (hcreated : ∀ row, (change row).createdAt = row.createdAt)
    (act : Except OutboxError Unit → Act) (hcommits : ∀ result, (act result).commits? = none)
    (henlists : ∀ result name, (act result).enlists? name = none)
    (hclaim : ∀ result limit claimed, act result ≠ .claim limit claimed)
    (hmarks : (act (.ok ())).Marks id)
    {answer : Except OutboxError Unit × World}
    (ha : answer = chronicle.world.keep
      ((Store.update ⟨chronicle.rows, ceiling⟩ id change).map .memory)) :
    Sound ceiling (chronicle.record (act answer.1) answer.2) := by
  subst ha
  rcases World.keep_cases id change with ⟨error, hk⟩ | ⟨rows, hu, hk⟩ <;> rw [hk]
  · exact h.quiet rfl (hcommits _) (henlists _)
      (fun limit claimed hc => absurd hc (hclaim _ limit _)) fun _ => .inr (.inl rfl)
  · exact .of_accounted rfl (h.accounted.quiet (hcommits _) (henlists _)
      (h.accounted.marked hid hfields hcreated hmarks hu) (fun _ => .inr (.inl rfl))
      fun limit claimed hc => absurd hc (hclaim _ limit _))

/-- A transaction of a new name has taken nothing, and was not committed. -/
private theorem unused {name : String} {journal : List Occurrence}
    (hn : ∀ occurrence ∈ journal, occurrence.act.transaction? ≠ some name) :
    enlisted name journal = [] ∧ name ∉ (commits journal).map (·.name) := by
  constructor
  · refine List.filterMap_eq_nil_iff.mpr fun occurrence hm => ?_
    have hother := hn occurrence hm
    cases hact : occurrence.act with
    | enlist other draft result =>
      rw [hact] at hother
      have hne : other ≠ name := fun he => hother (congrArg some he)
      cases result <;> simp [Act.enlists?, hne]
    | begin | commit | drop | claim | markSent | markFailed | get => rfl
  · rw [names_commits, List.mem_filterMap]
    rintro ⟨occurrence, hm, hc⟩
    refine hn occurrence hm ?_
    cases hact : occurrence.act <;> simp_all [Act.commits?, Act.transaction?]

/-- Whatever happens, the rows are accounted for. -/
theorem Sound.step (h : Sound ceiling chronicle) (hs : Step chronicle chronicle') :
    Sound ceiling chronicle' := by
  cases hs with
  | begin name hn =>
    refine h.quiet rfl rfl (fun _ => rfl) (by simp) fun other => ?_
    rw [World.begin, lookup_setNamed]
    split
    · next ho => exact .inr (.inr ⟨rfl, ho ▸ unused hn⟩)
    · exact .inr (.inl rfl)
  | enlist name item ho =>
    obtain ⟨transaction, ho⟩ := Option.isSome_iff_exists.mp ho
    rcases World.add_cases ho item with ⟨error, ha⟩ | ⟨hd, ha⟩ <;> rw [Chronicle.enlist, ha]
    · exact h.quiet rfl rfl (fun _ => rfl) (by simp) fun _ => .inr (.inl rfl)
    · exact .of_accounted h.memory (h.accounted.enlist ho hd _ _)
  | commit name ho =>
    obtain ⟨transaction, ho⟩ := Option.isSome_iff_exists.mp ho
    have hstaged : chronicle.world.staged name = transaction.staged := by
      rw [World.staged, ho, Option.getD_some]
    refine .of_accounted (World.commitTransaction_memory h.memory name).1 ?_
    rw [World.transactions_commitTransaction, hstaged]
    exact h.accounted.commit ho _
  | drop name ho =>
    refine h.quiet rfl rfl (fun _ => rfl) (by simp) fun other => ?_
    rw [World.dropTransaction, lookup_dropNamed]
    split
    · exact .inl rfl
    · exact .inr (.inl rfl)
  | claim limit =>
    rw [Chronicle.claim, World.claimRows_memory h.memory]
    refine h.quiet rfl rfl (fun _ => rfl) ?_ fun _ => .inr (.inl rfl)
    intro _ claimed hc
    cases hc
    exact stem_of_subperm h.accounted.rows (subperm_claim _ _ _)
  | markSent id =>
    refine h.keep (Row.markSent_id chronicle.world.clock) (fun row => Row.toDraft_markSent row _)
      (fun row => Row.createdAt_markSent row _) (.markSent id) (fun _ => rfl) (fun _ _ => rfl)
      (by simp) (.inl rfl) ?_
    rw [World.recordSent, h.memory]
    rfl
  | markFailed id reason =>
    refine h.keep (Row.markFailed_id chronicle.world.clock reason)
      (fun row => Row.toDraft_markFailed row _ _) (fun row => Row.createdAt_markFailed row _ _)
      (.markFailed id reason) (fun _ => rfl) (fun _ _ => rfl) (by simp) (.inr ⟨reason, rfl⟩) ?_
    rw [World.recordFailed, h.memory]
    rfl
  | get id => exact h.quiet rfl rfl (fun _ => rfl) (by simp) fun _ => .inr (.inl rfl)
  | change world hs ht =>
    refine .of_accounted (hs.trans h.memory) ?_
    rw [ht]
    exact h.accounted

theorem Reachable.sound (h : Reachable ceiling chronicle) : Sound ceiling chronicle := by
  induction h with
  | start world hs ht =>
    refine .of_accounted hs ?_
    rw [ht]
    exact .start
  | step _ hs ih => exact ih.step hs

/-- What has become of visible events has their identifiers. -/
private theorem id_of_forall₂ {events : List Visible} {rows : List Row}
    (h : List.Forall₂ Visible.Becomes events rows) :
    rows.map (·.id) = events.map (·.draft.id) := by
  induction h with
  | nil => rfl
  | cons hrow _ ih =>
    rw [List.map_cons, List.map_cons, ih]
    exact congrArg (· :: _) hrow.id_eq

/-- Transactions are atomic, however many are open at once. The rows of the store, in order, are
what has become of the events of the committed transactions: of one transaction after the other in
the order of the commits, and of all events that it took in the order in which it took them. Each
row has the fields of its event, apart from a status that was recorded later, and was created at the
commit. Every claim yields rows of this kind, each at most once, from the commits before it: an
event that is not committed is in no row and in no claim. An open transaction holds all that it took
and nothing that was refused. And all rows are valid. -/
theorem Reachable.atomic_visibility (h : Reachable ceiling chronicle) :
    List.Forall₂ Visible.Becomes (committed chronicle.journal) chronicle.rows ∧
      (∀ before limit claimed now later,
        chronicle.journal = before ++ ⟨.claim limit (.ok claimed), now⟩ :: later →
          Stem before claimed) ∧
      (∀ id ∉ (committed chronicle.journal).map (·.draft.id), id ∉ chronicle.rows.map (·.id)) ∧
      (∀ before limit claimed now later,
        chronicle.journal = before ++ ⟨.claim limit (.ok claimed), now⟩ :: later →
          ∀ id ∉ (committed before).map (·.draft.id), id ∉ claimed.map (·.id)) ∧
      (∀ name transaction, chronicle.world.transactions.lookup name = some transaction →
        transaction.staged = enlisted name chronicle.journal) ∧
      ∀ row ∈ chronicle.rows, row.toDraft.check = .ok () := by
  obtain ⟨-, ha⟩ := h.sound
  refine ⟨ha.rows, ha.claims, ?_, ?_, ha.staged, ?_⟩
  · intro id hid
    rwa [id_of_forall₂ ha.rows]
  · intro before limit claimed now later hsplit id hid hclaimed
    obtain ⟨events, hevents, hrows⟩ := ha.claims before limit claimed now later hsplit
    rw [id_of_forall₂ hrows] at hclaimed
    obtain ⟨event, hevent, rfl⟩ := List.mem_map.mp hclaimed
    exact hid (List.mem_map.mpr ⟨event, hevents.subset hevent, rfl⟩)
  · intro row hm
    obtain ⟨event, hevent, hrow⟩ := exists_mem_of_forall₂ ha.rows hm
    obtain ⟨commit, -, htaken⟩ := List.mem_flatMap.mp hevent
    obtain ⟨draft, hdraft, rfl⟩ := List.mem_map.mp htaken
    rw [hrow.check_eq]
    exact ha.valid commit.name draft hdraft

section Overlapping

/-- An event under an identifier. -/
def arrival (id : Uuid) : Item :=
  .given ⟨id, none, "employee", "7", "employee.created", "hr", [123, 125], .pending⟩

/-- Two transactions take turns; one of them is refused an event without an identifier. -/
def interleaved : Chronicle :=
  let world := World.start ⟨1784105400, 0⟩ ⟨1784105400, 0⟩ (.memory (.empty none)) none
  let opened := ((Chronicle.mk world []).begin "first").begin "second"
  let refused := (opened.enlist "first" (arrival (Uuid.reserved 1))).enlist "first"
    (arrival Uuid.nil)
  (refused.enlist "second" (arrival (Uuid.reserved 2))).enlist "first" (arrival (Uuid.reserved 3))

/-- A minute later the second transaction is committed, and its row is claimed and sent. -/
def halfway : Chronicle :=
  let later := { interleaved with
    world := { interleaved.world with clock := ⟨1784105460, 0⟩ } }
  ((later.commit "second").claim 10).markSent (Uuid.reserved 2)

/-- A third transaction is dropped, and then the first one is committed. -/
def overlapping : Chronicle :=
  (((halfway.begin "third").enlist "third" (arrival (Uuid.reserved 4))).drop "third").commit "first"

theorem reachable_overlapping : Reachable none overlapping := by
  have hinterleaved : Reachable none interleaved :=
    (Reachable.start _ rfl rfl).step (.begin "first" (by decide))
      |>.step (.begin "second" (by decide))
      |>.step (.enlist "first" _ (by decide))
      |>.step (.enlist "first" _ (by decide +kernel))
      |>.step (.enlist "second" _ (by decide +kernel))
      |>.step (.enlist "first" _ (by decide +kernel))
  have hhalfway : Reachable none halfway :=
    hinterleaved.step (.change { interleaved.world with clock := ⟨1784105460, 0⟩ }
        (by decide +kernel) (by decide +kernel))
      |>.step (.commit "second" (by decide +kernel))
      |>.step (.claim 10)
      |>.step (.markSent (Uuid.reserved 2))
  exact hhalfway.step (.begin "third" (by decide +kernel))
    |>.step (.enlist "third" _ (by decide +kernel))
    |>.step (.drop "third" (by decide +kernel))
    |>.step (.commit "first" (by decide +kernel))

/-- The second transaction is committed before the first one, which has taken two of its three
events; the event of the third one is in no row. -/
theorem overlapping_atomic_visibility :
    List.Forall₂ Visible.Becomes (committed overlapping.journal) overlapping.rows ∧
      (committed overlapping.journal).map (·.draft.id) =
        [Uuid.reserved 2, Uuid.reserved 1, Uuid.reserved 3] ∧
      Uuid.reserved 4 ∉ overlapping.rows.map (·.id) ∧
      ∀ row ∈ overlapping.rows, row.toDraft.check = .ok () := by
  obtain ⟨hrows, -, habsent, -, -, hvalid⟩ := reachable_overlapping.atomic_visibility
  have hcommitted : (committed overlapping.journal).map (·.draft.id) =
      [Uuid.reserved 2, Uuid.reserved 1, Uuid.reserved 3] := by decide +kernel
  refine ⟨hrows, hcommitted, habsent _ ?_, hvalid⟩
  rw [hcommitted]
  decide

end Overlapping

end Chronicle
end HrPipeline.Scenario
