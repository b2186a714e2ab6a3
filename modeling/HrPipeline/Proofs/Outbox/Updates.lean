import HrPipeline.Broker.Message
import HrPipeline.Outbox.Store
import Mathlib.Data.List.Nodup

/-!
# Updates of a store

Recording an attempt changes the history of a row and nothing that its message is made from. In a
store whose rows have identifiers of their own, it changes exactly the row that it is about.
-/

namespace HrPipeline.Outbox

open HrPipeline.Calendar HrPipeline.Broker

namespace Row

/-- The draft that a row was committed with. -/
def origin (row : Row) : Draft := { row.toDraft with status := .pending }

@[simp] theorem origin_id (row : Row) : row.origin.id = row.id := rfl

@[simp] theorem origin_markSent (row : Row) (now : Instant) :
    (row.markSent now).origin = row.origin := by
  unfold markSent
  split <;> rfl

@[simp] theorem origin_markFailed (row : Row) (now : Instant) (reason : String) :
    (row.markFailed now reason).origin = row.origin := by
  unfold markFailed
  split <;> rfl

/-- The message of a row is made from its origin. -/
theorem ofRow_eq_of_origin_eq {a b : Row} (h : a.origin = b.origin) :
    Outbound.ofRow a = Outbound.ofRow b := by
  obtain ⟨⟨_, _, _, _, _, _, _, _⟩, _⟩ := a
  obtain ⟨⟨_, _, _, _, _, _, _, _⟩, _⟩ := b
  cases h
  rfl

theorem id_eq_of_origin_eq {a b : Row} (h : a.origin = b.origin) : a.id = b.id :=
  show a.origin.id = b.origin.id from congrArg Draft.id h

/-- A row that is leased up to an instant. -/
def leased (due now : Instant) (row : Row) : Row :=
  { row with nextRetryAt := some due, updatedAt := now }

@[simp] theorem leased_id (due now : Instant) (row : Row) : (row.leased due now).id = row.id := rfl

/-- A failure does not undo an acceptance, nor does it make one. -/
theorem markFailed_status_iff (row : Row) (now : Instant) (reason : String) :
    (row.markFailed now reason).status = .sent ↔ row.status = .sent := by
  unfold markFailed
  split
  · rfl
  · next h => simp [h]

/-- An acceptance changes no field of the event but the status. -/
theorem toDraft_markSent (row : Row) (now : Instant) :
    (row.markSent now).toDraft = { row.toDraft with status := (row.markSent now).status } := by
  unfold markSent
  split <;> rfl

/-- Nor does a failure. -/
theorem toDraft_markFailed (row : Row) (now : Instant) (reason : String) :
    (row.markFailed now reason).toDraft =
      { row.toDraft with status := (row.markFailed now reason).status } := by
  unfold markFailed
  split <;> rfl

/-- An acceptance counts no failure. -/
theorem retryCount_markSent (row : Row) (now : Instant) :
    (row.markSent now).retryCount = row.retryCount := by
  unfold markSent
  split <;> rfl

/-- An acceptance does not change when the row was committed. -/
theorem createdAt_markSent (row : Row) (now : Instant) :
    (row.markSent now).createdAt = row.createdAt := by
  unfold markSent
  split <;> rfl

theorem createdAt_markFailed (row : Row) (now : Instant) (reason : String) :
    (row.markFailed now reason).createdAt = row.createdAt := by
  unfold markFailed
  split <;> rfl

theorem retryCount_markFailed (row : Row) (now : Instant) (reason : String) :
    (row.markFailed now reason).retryCount =
      if row.status = .sent then row.retryCount else nextRetryCount row.retryCount := by
  unfold markFailed
  split <;> rfl

/-- A row whose failure is recorded waits as long as its failures so far demand. -/
theorem nextRetryAt_markFailed (row : Row) (now : Instant) (reason : String) :
    (row.markFailed now reason).nextRetryAt =
      if row.status = .sent then row.nextRetryAt
      else some (now.addSeconds (backoffSeconds (nextRetryCount row.retryCount))) := by
  unfold markFailed
  split <;> rfl

end Row

/-- Counting one failure more commutes with the bound on the count. -/
theorem nextRetryCount_min (count : Nat) :
    nextRetryCount (min (count : Int) maxRetryCount) =
      min ((count + 1 : Nat) : Int) maxRetryCount := by
  unfold nextRetryCount maxRetryCount
  omega

/-- An entry of a list with one more is the last one, or an entry of the list. -/
theorem split_concat {α : Type} {entries before later : List α} {last entry : α}
    (h : entries ++ [last] = before ++ entry :: later) :
    before = entries ∧ entry = last ∨ ∃ between, entries = before ++ entry :: between := by
  rcases List.eq_nil_or_concat later with rfl | ⟨between, final, rfl⟩
  · obtain ⟨rfl, hlast⟩ := List.append_inj' h rfl
    cases hlast
    exact .inl ⟨rfl, rfl⟩
  · rw [List.concat_eq_append, ← List.cons_append, ← List.append_assoc] at h
    exact .inr ⟨between, (List.append_inj' h rfl).1⟩

/-- What relates to a list one by one has a part that relates to a part of the list. -/
theorem exists_sublist_of_forall₂ {α β : Type} {related : α → β → Prop} {items : List α}
    {values part : List β} (hr : List.Forall₂ related items values) (hp : part.Sublist values) :
    ∃ chosen, List.Sublist chosen items ∧ List.Forall₂ related chosen part := by
  induction hp generalizing items with
  | slnil => exact ⟨[], List.nil_sublist items, .nil⟩
  | cons value _ ih =>
    cases hr with
    | @cons item _ _ _ hitem hitems =>
      obtain ⟨chosen, hsub, hchosen⟩ := ih hitems
      exact ⟨chosen, hsub.cons item, hchosen⟩
  | cons_cons value _ ih =>
    cases hr with
    | @cons item _ _ _ hitem hitems =>
      obtain ⟨chosen, hsub, hchosen⟩ := ih hitems
      exact ⟨item :: chosen, hsub.cons_cons item, .cons hitem hchosen⟩

/-- What relates to a list one by one relates to each member of it. -/
theorem exists_mem_of_forall₂ {α β : Type} {related : α → β → Prop} {items : List α}
    {values : List β} (hr : List.Forall₂ related items values) {value : β} (hm : value ∈ values) :
    ∃ item ∈ items, related item value := by
  obtain ⟨chosen, hsub, hchosen⟩ :=
    exists_sublist_of_forall₂ hr (List.singleton_sublist.mpr hm)
  obtain ⟨item, _, hitem, -, rfl⟩ := List.forall₂_cons_right_iff.mp hchosen
  exact ⟨item, hsub.subset List.mem_cons_self, hitem⟩

/-- What relates to rows one by one still does after the first of them that satisfies a condition
has changed, if the change keeps it so. -/
theorem forall₂_updateFirst {α : Type} {related related' : α → Row → Prop}
    {condition : Row → Bool} {change : Row → Row} {items : List α} {rows rows' : List Row}
    (hkept : ∀ item row, related item row → related' item row)
    (hchanged : ∀ item row, related item row → condition row = true → related' item (change row))
    (hr : List.Forall₂ related items rows) (h : updateFirst condition change rows = some rows') :
    List.Forall₂ related' items rows' := by
  induction hr generalizing rows' with
  | nil => cases h
  | @cons item row items rows hrow hrows ih =>
    unfold updateFirst at h
    split at h
    · next hc =>
      obtain rfl := Option.some.inj h
      exact .cons (hchanged item row hrow hc) (hrows.imp hkept)
    · obtain ⟨rest, hrest, rfl⟩ := Option.map_eq_some_iff.mp h
      exact .cons (hkept item row hrow) (ih hrest)

/-- Changing the first row with an identifier, which keeps it, leaves the later rows with it as they
are, and those with other identifiers. -/
theorem filter_updateFirst {id : Uuid} {change : Row → Row} {rows rows' : List Row}
    (hid : ∀ row, (change row).id = row.id) (h : updateFirst (·.id = id) change rows = some rows') :
    (∃ row rest, rows.filter (·.id = id) = row :: rest ∧
        rows'.filter (·.id = id) = change row :: rest) ∧
      ∀ other ≠ id, rows'.filter (·.id = other) = rows.filter (·.id = other) := by
  induction rows generalizing rows' with
  | nil => cases h
  | cons first rows ih =>
    unfold updateFirst at h
    split at h
    · next hfirst =>
      obtain rfl := Option.some.inj h
      have hfirst : first.id = id := of_decide_eq_true hfirst
      refine ⟨⟨first, rows.filter (·.id = id), ?_, ?_⟩, fun other hother => ?_⟩
      · rw [List.filter_cons_of_pos (by simpa using hfirst)]
      · rw [List.filter_cons_of_pos (by simpa [hid] using hfirst)]
      · have hne : first.id ≠ other := fun he => hother (he.symm.trans hfirst)
        rw [List.filter_cons_of_neg (by simpa [hid] using hne),
          List.filter_cons_of_neg (by simpa using hne)]
    · next hfirst =>
      obtain ⟨changed, hchanged, rfl⟩ := Option.map_eq_some_iff.mp h
      obtain ⟨⟨row, rest, hrows, hrows'⟩, hothers⟩ := ih hchanged
      refine ⟨⟨row, rest, ?_, ?_⟩, fun other hother => ?_⟩
      · rw [List.filter_cons_of_neg (by simpa using hfirst), hrows]
      · rw [List.filter_cons_of_neg (by simpa using hfirst), hrows']
      · rw [List.filter_cons, List.filter_cons, hothers other hother]

/-- Changing a row in a way that keeps its identifier keeps those of all rows. -/
theorem ids_updateFirst {condition : Row → Bool} {change : Row → Row} {rows rows' : List Row}
    (hid : ∀ row, (change row).id = row.id) (h : updateFirst condition change rows = some rows') :
    rows'.map (·.id) = rows.map (·.id) := by
  induction rows generalizing rows' with
  | nil => cases h
  | cons first rows ih =>
    unfold updateFirst at h
    split at h
    · obtain rfl := Option.some.inj h
      rw [List.map_cons, List.map_cons, hid]
    · obtain ⟨changed, hchanged, rfl⟩ := Option.map_eq_some_iff.mp h
      rw [List.map_cons, List.map_cons, ih hchanged]

/-- An update of the first row that satisfies a condition leaves out no other such row if there is
none. -/
theorem updateFirst_eq_map {rows rows' : List Row} {id : Uuid} {change : Row → Row}
    (hu : (rows.map (·.id)).Nodup) (h : updateFirst (·.id = id) change rows = some rows') :
    rows' = rows.map fun row => if row.id = id then change row else row := by
  induction rows generalizing rows' with
  | nil => cases h
  | cons row rows ih =>
    rw [List.map_cons, List.nodup_cons] at hu
    unfold updateFirst at h
    split at h
    · next hid =>
      obtain rfl := Option.some.inj h
      have hid := of_decide_eq_true hid
      rw [List.map_cons, if_pos hid]
      congr 1
      have hothers : ∀ other ∈ rows, (if other.id = id then change other else other) = other := by
        intro other hm
        rw [if_neg]
        intro ho
        apply hu.1
        rw [hid, ← ho]
        exact List.mem_map_of_mem hm
      rw [List.map_congr_left hothers, List.map_id']
    · next hid =>
      have hid : row.id ≠ id := fun he => hid (decide_eq_true he)
      cases hr : updateFirst (·.id = id) change rows with
      | none => simp [hr] at h
      | some rest =>
        simp only [hr, Option.map_some, Option.some.injEq] at h
        rw [← h, List.map_cons, if_neg hid, ← ih hu.2 hr]

/-- A change of the row with an identifier that keeps the identifier keeps those of all rows. -/
theorem ids_map {rows : List Row} {id : Uuid} {change : Row → Row}
    (hid : ∀ row, (change row).id = row.id) :
    (rows.map fun row => if row.id = id then change row else row).map (·.id) =
      rows.map (·.id) := by
  rw [List.map_map]
  refine List.map_congr_left fun row _ => ?_
  show (if row.id = id then change row else row).id = row.id
  split
  · exact hid row
  · rfl

namespace Store

/-- An update changes the row with the identifier, if the identifiers are unique. -/
theorem rows_update {store store' : Store} {id : Uuid} {change : Row → Row}
    (hu : (store.rows.map (·.id)).Nodup) (h : store.update id change = .ok store') :
    store' = { store with
      rows := store.rows.map fun row => if row.id = id then change row else row } := by
  unfold Store.update at h
  split at h
  · next rows hr =>
    cases h
    rw [updateFirst_eq_map hu hr]
  · cases h

/-- An update that keeps the identifier of a row keeps those of all rows. -/
theorem ids_update {store store' : Store} {id : Uuid} {change : Row → Row}
    (hid : ∀ row, (change row).id = row.id) (h : store.update id change = .ok store') :
    store'.rows.map (·.id) = store.rows.map (·.id) := by
  unfold Store.update at h
  split at h
  · next rows hr =>
    cases h
    exact ids_updateFirst hid hr
  · cases h

/-- A claim of as many rows as there are selects all that are eligible. -/
theorem mem_claim_iff {store : Store} {limit : Int} (hl : store.rows.length ≤ limit) (now : Instant)
    (row : Row) :
    row ∈ store.claim limit now ↔
      row ∈ store.rows ∧ row.isEligible store.maxAttempts now = true := by
  refine ⟨mem_claim, fun h => ?_⟩
  have hall : (oldestFirst (store.rows.filter (·.isEligible store.maxAttempts now))).length ≤
      limit.toNat := by
    have hfilter := List.length_filter_le (·.isEligible store.maxAttempts now) store.rows
    rw [oldestFirst, List.length_mergeSort]
    omega
  rw [claim, List.take_of_length_le hall, oldestFirst, List.mem_mergeSort]
  exact List.mem_filter.mpr h

/-- A claim names no identifier twice. -/
theorem nodup_claim {store : Store} (hu : (store.rows.map (·.id)).Nodup) (limit : Int)
    (now : Instant) : ((store.claim limit now).map (·.id)).Nodup := by
  have hsorted := (List.mergeSort_perm (store.rows.filter (·.isEligible store.maxAttempts now))
    fun a b => a.createdAt ≤ b.createdAt).map (·.id)
  refine List.Nodup.sublist ((List.take_sublist _ _).map _) (hsorted.nodup_iff.mpr ?_)
  exact hu.sublist (List.filter_sublist.map _)

end Store
end HrPipeline.Outbox
