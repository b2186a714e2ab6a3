import HrPipeline.Api.Operations
import HrPipeline.Api.Request
import HrPipeline.Proofs.Database.Inserts
import HrPipeline.Proofs.Text.Trimmed
import HrPipeline.Proofs.Text.Utf8
import HrPipeline.Proofs.Uuid.RoundTrip

/-!
# Drafts of the interface

Whatever headers a request has, the correlation name read from them is visible and short enough for
the outbox. So are the written identifiers, and the drafts of both kinds of events fit: enlisting
one can only fail for the sake of its identifier.
-/

namespace HrPipeline.Api

open HrPipeline.Outbox HrPipeline.Text

/-- Whether a character stands for a visible byte. -/
def Headers.Shows (c : Char) : Prop :=
  c.toNat < 128 ∧ isVisible (UInt8.ofNat c.toNat) = true

/-- A text of visible bytes is one of visible characters. -/
theorem shows_of_mem_visibleText {bytes : Bytes} {s : String}
    (h : Headers.visibleText? bytes = some s) {c : Char} (hc : c ∈ s.toList) :
    Headers.Shows c := by
  unfold Headers.visibleText? at h
  split at h
  · next hall =>
    rw [← Option.some.inj h, String.toList_ofList] at hc
    obtain ⟨b, hb, rfl⟩ := List.mem_map.mp hc
    have hbytes : ∀ n : Fin 256, Headers.isVisible (UInt8.ofFin n) = true →
        (Char.ofNat n.val).toNat < 128 ∧
          Headers.isVisible (UInt8.ofNat (Char.ofNat n.val).toNat) = true := by
      decide +kernel
    exact hbytes b.toFin (List.all_eq_true.mp hall b hb)
  · cases h

/-- So it has no U+0000. -/
theorem not_mem_visibleText {bytes : Bytes} {s : String}
    (h : Headers.visibleText? bytes = some s) : '\x00' ∉ s.toList := by
  intro hmem
  exact absurd (shows_of_mem_visibleText h hmem).2 (by decide)

/-- The outbox holds the correlation name of any request. -/
theorem holds_requestId {headers : Headers} {s : String} (h : requestId headers = some s) :
    Database.Holds 128 s := by
  unfold requestId at h
  split at h
  · cases h
  · next value hvalue =>
    obtain ⟨bytes, -, hvisible⟩ := Option.bind_eq_some_iff.mp hvalue
    simp only at h
    split at h
    · cases h
    · rw [← Option.some.inj h]
      unfold Database.Holds
      rw [String.toList_ofList]
      constructor
      · intro hmem
        exact not_mem_visibleText hvisible (mem_of_mem_trim (List.mem_of_mem_take hmem))
      · exact List.length_take_le _ _

/-- The outbox holds any written identifier. -/
theorem holds_text (id : Uuid) : Database.Holds 128 id.text := by
  unfold Database.Holds Uuid.text
  rw [String.toList_ofList, Uuid.length_written]
  refine ⟨?_, by decide⟩
  intro hmem
  have hdigits : ∀ m < 16, Nat.digitChar m ≠ '\x00' := by decide
  rcases Uuid.mem_written hmem with heq | ⟨m, hm, heq⟩
  · cases heq
  · exact hdigits m hm heq.symm

/-- The columns of the outbox hold the draft of a new employee's event. -/
theorem fits_employeeCreated (context : Context) (headers : Headers) (companyId : Uuid) :
    (Draft.ofEvent context.event (EmployeeCreated.new context.subject companyId
      (requestId headers) context.now)).Fits where
  requestId _ hs := holds_requestId hs
  aggregateType := show Database.Holds 64 "employee" by decide
  aggregateId := holds_text context.subject
  eventType := show Database.Holds 128 "employee.created" by decide
  topic := show Database.Holds 255 employeeTopic by decide

/-- The columns of the outbox hold the draft of a requested payslip's event. -/
theorem fits_payslipRequested (context : Context) (payrollId : Uuid) (request : RequestPayslip) :
    (Draft.ofEvent context.event (PayslipRequested.new payrollId request.companyId
      request.requestedBy context.now)).Fits where
  requestId _ hs := by cases hs
  aggregateType := show Database.Holds 64 "payroll" by decide
  aggregateId := holds_text payrollId
  eventType := show Database.Holds 128 "payroll.payslip.requested" by decide
  topic := show Database.Holds 255 payslipTopic by decide

/-- An event whose draft fits and whose topic is not blank is refused only for its identifier. -/
theorem publish_of_fits {ε : Type} [DomainEvent ε] (db : Database) (context : Context)
    (event : ε) (hfits : (Draft.ofEvent context.event event).Fits)
    (htopic : isBlankText (DomainEvent.topic ε) = false) :
    db.publish context.databaseNow context.event event =
      if context.event = Uuid.nil then .error (.invalidEvent "id is empty")
      else if db.outbox.any (·.id = context.event) then
        .error (.database (Database.refuseDuplicate "outbox_events_pkey"))
      else .ok { db with outbox := db.outbox ++
        [Row.ofDraft (Draft.ofEvent context.event event) context.databaseNow.toMicros] } := by
  have hpayload : (DomainEvent.encode event).isEmpty = false := by
    rw [DomainEvent.encode, DomainEvent.bodyText, Json.mapText, utf8_ofList, Json.writtenMap,
      encoded_cons]
    rfl
  have hcheck : (Draft.ofEvent context.event event).check =
      if context.event = Uuid.nil then .error (.invalidEvent "id is empty") else .ok () := by
    unfold Draft.check
    simp only [Draft.ofEvent, htopic, hpayload, Bool.false_eq_true, if_false]
  rw [Database.publish, Database.enlist_eq, hcheck, Database.insertDraft_of_fits _ _ hfits]
  by_cases hnil : context.event = Uuid.nil
  · rw [if_pos hnil, if_pos hnil]
    rfl
  · rw [if_neg hnil, if_neg hnil]
    show Except.mapError _ (if db.outbox.any (·.id = context.event) then _ else _) = _
    split <;> rfl

end HrPipeline.Api
