import HrPipeline.Database.Outbox

/-!
# Inserting statements

A column holds a text as it is if the text is free of U+0000 and not longer than the column. A row
whose texts its columns hold is refused only for the sake of a key, and a row whose texts do not
end with a space is never stored with other texts than its own.
-/

namespace HrPipeline

open HrPipeline.Outbox

namespace Database

/-- A text that a column of limited width holds as it is. -/
def Holds (width : Nat) (s : String) : Prop := '\x00' ∉ s.toList ∧ s.toList.length ≤ width

instance (width : Nat) (s : String) : Decidable (Holds width s) :=
  inferInstanceAs (Decidable (_ ∧ _))

theorem fit_of_holds {width : Nat} {s : String} (h : Holds width s) : fit width s = .ok s := by
  unfold fit
  exact if_pos h.2

/-- A text that does not end with a space is never cut. -/
theorem length_le_of_fit {width : Nat} {s stored : String} (hend : s.toList.getLast? ≠ some ' ')
    (h : fit width s = .ok stored) : s.toList.length ≤ width := by
  unfold fit at h
  simp only at h
  split at h
  · assumption
  · next hlong =>
    split at h
    · next hspaces =>
      have hne : s.toList.drop width ≠ [] := by
        intro hnil
        have hl := congrArg List.length hnil
        rw [List.length_drop, List.length_nil] at hl
        omega
      have hlast := List.getLast_mem hne
      rw [List.all_eq_true] at hspaces
      have hspace : (s.toList.drop width).getLast hne = ' ' := of_decide_eq_true (hspaces _ hlast)
      rw [List.getLast_drop] at hspace
      refine absurd ?_ hend
      rw [← hspace, List.getLast?_eq_some_getLast]
    · cases h

theorem checkTexts_eq_ok {texts : List String} (h : ∀ s ∈ texts, '\x00' ∉ s.toList) :
    checkTexts texts = .ok () := by
  unfold checkTexts
  rw [if_neg]
  simpa using h

theorem not_mem_of_checkTexts {texts : List String} (h : checkTexts texts = .ok ()) :
    ∀ s ∈ texts, '\x00' ∉ s.toList := by
  unfold checkTexts at h
  split at h
  · cases h
  · next hany => simpa using hany

end Database

/-- The row of an employee whose texts are stored as they are. -/
def Employee.stored (employee : Employee) : Employee :=
  { employee with
    createdAt := employee.createdAt.toMicros, updatedAt := employee.updatedAt.toMicros }

/-- The columns of an employee hold the texts. -/
structure Employee.Fits (employee : Employee) : Prop where
  firstName : Database.Holds 100 employee.firstName
  lastName : Database.Holds 100 employee.lastName
  email : Database.Holds 255 employee.email

/-- The columns of an outbox row hold the texts. -/
structure Outbox.Draft.Fits (draft : Draft) : Prop where
  requestId : ∀ s, draft.requestId = some s → Database.Holds 128 s
  aggregateType : Database.Holds 64 draft.aggregateType
  aggregateId : Database.Holds 128 draft.aggregateId
  eventType : Database.Holds 128 draft.eventType
  topic : Database.Holds 255 draft.topic

namespace Database

/-- An employee whose texts fit is refused only for the sake of a key. -/
theorem insertEmployee_of_fits (db : Database) {employee : Employee} (h : employee.Fits) :
    db.insertEmployee employee =
      if db.employees.any (·.id = employee.id) then .error (refuseDuplicate "employees_pkey")
      else if db.employees.any fun e =>
          e.companyId = employee.companyId ∧ e.email = employee.email then
        .error (refuseDuplicate "employees_company_id_email_key")
      else .ok (employee.stored, { db with employees := db.employees ++ [employee.stored] }) := by
  have htexts : checkTexts [employee.firstName, employee.lastName, employee.email] = .ok () := by
    refine checkTexts_eq_ok fun s hs => ?_
    simp only [List.mem_cons, List.not_mem_nil, or_false] at hs
    rcases hs with rfl | rfl | rfl
    · exact h.firstName.1
    · exact h.lastName.1
    · exact h.email.1
  unfold insertEmployee
  simp only [htexts, fit_of_holds h.firstName, fit_of_holds h.lastName, fit_of_holds h.email, bind,
    Except.bind]
  rfl

/-- An inserted employee whose texts do not end with a space has texts that fit. -/
theorem fits_of_insertEmployee {db : Database} {employee : Employee} {result : Employee × Database}
    (hfirst : employee.firstName.toList.getLast? ≠ some ' ')
    (hlast : employee.lastName.toList.getLast? ≠ some ' ')
    (hemail : employee.email.toList.getLast? ≠ some ' ')
    (h : db.insertEmployee employee = .ok result) : employee.Fits := by
  unfold insertEmployee at h
  cases ht : checkTexts [employee.firstName, employee.lastName, employee.email] with
  | error error => simp [ht, bind, Except.bind] at h
  | ok _ =>
    have htexts := not_mem_of_checkTexts ht
    simp only [ht, bind, Except.bind] at h
    cases hf : fit 100 employee.firstName with
    | error error => simp [hf] at h
    | ok first =>
      simp only [hf] at h
      cases hl : fit 100 employee.lastName with
      | error error => simp [hl] at h
      | ok last =>
        simp only [hl] at h
        cases he : fit 255 employee.email with
        | error error => simp [he] at h
        | ok email =>
          exact ⟨⟨htexts _ (by simp), length_le_of_fit hfirst hf⟩,
            ⟨htexts _ (by simp), length_le_of_fit hlast hl⟩,
            ⟨htexts _ (by simp), length_le_of_fit hemail he⟩⟩

/-- A draft whose texts fit is stored as it is. -/
theorem storedDraft_of_fits {draft : Draft} (h : draft.Fits) : storedDraft draft = .ok draft := by
  have htexts : checkTexts (draft.requestId.toList ++
      [draft.aggregateType, draft.aggregateId, draft.eventType, draft.topic]) = .ok () := by
    refine checkTexts_eq_ok fun s hs => ?_
    simp only [List.mem_append, Option.mem_toList, List.mem_cons, List.not_mem_nil,
      or_false] at hs
    rcases hs with hs | rfl | rfl | rfl | rfl
    · exact (h.requestId s hs).1
    · exact h.aggregateType.1
    · exact h.aggregateId.1
    · exact h.eventType.1
    · exact h.topic.1
  unfold storedDraft
  simp only [htexts, fit_of_holds h.aggregateType, fit_of_holds h.aggregateId,
    fit_of_holds h.eventType, fit_of_holds h.topic, bind, Except.bind]
  cases hr : draft.requestId with
  | none =>
    cases draft
    cases hr
    rfl
  | some s =>
    simp only [fit_of_holds (h.requestId s hr), Except.map]
    cases draft
    cases hr
    rfl

/-- The statement that appends a checked draft to the outbox. -/
def insertDraft (db : Database) (now : Calendar.Instant) (draft : Draft) :
    Except DatabaseError Database := do
  let stored ← storedDraft draft
  if db.outbox.any (·.id = stored.id) then .error (refuseDuplicate "outbox_events_pkey")
  else .ok { db with outbox := db.outbox ++ [Row.ofDraft stored now.toMicros] }

/-- Enlisting checks the draft before it sends the statement. -/
theorem enlist_eq (db : Database) (now : Calendar.Instant) (draft : Draft) :
    db.enlist now draft =
      draft.check >>= fun _ => (db.insertDraft now draft).mapError .database := by
  unfold enlist insertDraft
  cases draft.check with
  | error error => rfl
  | ok _ =>
    cases hs : storedDraft draft with
    | error error => rfl
    | ok stored =>
      show (if db.outbox.any (·.id = stored.id) then _ else _) =
        Except.mapError OutboxError.database (if db.outbox.any (·.id = stored.id) then _ else _)
      split <;> rfl

/-- A draft whose texts fit is refused only for the sake of its key. -/
theorem insertDraft_of_fits (db : Database) (now : Calendar.Instant) {draft : Draft}
    (h : draft.Fits) :
    db.insertDraft now draft =
      if db.outbox.any (·.id = draft.id) then .error (refuseDuplicate "outbox_events_pkey")
      else .ok { db with outbox := db.outbox ++ [Row.ofDraft draft now.toMicros] } := by
  unfold insertDraft
  rw [storedDraft_of_fits h]
  rfl

end Database
end HrPipeline
