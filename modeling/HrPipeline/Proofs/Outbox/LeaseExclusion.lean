import HrPipeline.Proofs.Database.Responses

/-!
# Leases exclude each other

Any number of workers claim rows of one database by leases and record what has become of them, each
by a clock of its own. A row that was claimed is not claimed again before the end of the lease,
unless a failure has been recorded for it since: `Waits` is what the row has to wait for, and
nothing but a claim or such a record changes it. A late record of another worker is no exception.
-/

namespace HrPipeline

open HrPipeline.Calendar HrPipeline.Outbox

/-- By the time of a later operation, the lease of a claim has ended: as the database reads the
clock, and stores the end of the lease, in whole microseconds. Where the clock and the lease count
whole microseconds, this is the end of the lease itself. -/
structure Outbox.Record.LeaseEndedBy (claim : Record) (lease : Nat) (later : Record) : Prop where
  stored : (claim.now.add lease).toMicros ≤ later.now.toMicros
  whole : 1000 ∣ lease → claim.now.IsMicros → later.now.IsMicros → claim.now.add lease ≤ later.now

namespace Database

variable {lease : Nat} {ceiling : Option Int} {db last : Database} {id : Uuid} {due : Instant}

/-- The row with an identifier is sent or waits for an instant. -/
structure Waits (id : Uuid) (due : Instant) (db : Database) : Prop where
  ids : (db.outbox.map (·.id)).Nodup
  waiting : ∃ row, db.outboxRow? id = some row ∧
    (row.status ≠ .sent → row.nextRetryAt = some due)

/-- A claimed row waits for the end of its lease. -/
theorem waits_of_claims {entry : Entry} (hu : (db.outbox.map (·.id)).Nodup)
    (h : (db.answered (.skipLocked lease) ceiling entry).Claims id) :
    (db.respond (.skipLocked lease) ceiling entry).2.Waits id (entry.now.add lease).toMicros := by
  obtain ⟨row, hr, heligible⟩ := eligible_of_claims hu h
  obtain ⟨-, rfl⟩ := mem_of_outboxRow? hr
  obtain ⟨row', hr', hpasses⟩ := respond_passes hu hr entry
  refine ⟨nodup_respond hu entry, row', hr', ?_⟩
  obtain ⟨limit, rows, hop, ha, hm⟩ := h
  cases hpasses with
  | sent _ _ by_record => exact absurd (hop.symm.trans by_record.1) (by simp)
  | failed _ reason _ by_record => exact absurd (hop.symm.trans by_record.1) (by simp)
  | leased _ leases _ _ =>
    obtain rfl := Option.some.inj leases
    exact fun _ => rfl
  | kept unmarked =>
    have hfree := (unmarked (unsent_of_isEligible heligible)).2.2 rfl
    exact absurd ⟨limit, rows, hop, ha, hm⟩ hfree

/-- A row waits until it is claimed or a failure is recorded for it. -/
theorem Waits.respond {entry : Entry} (h : db.Waits id due)
    (hclaims : ¬ (db.answered (.skipLocked lease) ceiling entry).Claims id)
    (hfails : ∀ reason, ¬ (db.answered (.skipLocked lease) ceiling entry).Fails id reason) :
    (db.respond (.skipLocked lease) ceiling entry).2.Waits id due := by
  obtain ⟨hu, row, hr, hwaits⟩ := h
  obtain ⟨-, rfl⟩ := mem_of_outboxRow? hr
  obtain ⟨row', hr', hpasses⟩ := respond_passes hu hr entry
  refine ⟨nodup_respond hu entry, row', hr', ?_⟩
  cases hpasses with
  | sent _ hs _ => exact fun hunsent => absurd hs hunsent
  | failed _ reason _ by_record => exact absurd by_record (hfails reason)
  | leased _ _ _ by_record => exact absurd by_record hclaims
  | kept _ => exact hwaits

/-- In a stretch of a run that neither claims a row nor records a failure for it, the row waits. -/
theorem Answers.waits {records : List Record}
    (h : Answers (.skipLocked lease) ceiling db records last) (hw : db.Waits id due)
    (hclaims : ∀ record ∈ records, ¬ record.Claims id)
    (hfails : ∀ record ∈ records, ∀ reason, ¬ record.Fails id reason) : last.Waits id due := by
  induction h with
  | nil _ => exact hw
  | cons entry _ ih =>
    rw [List.forall_mem_cons] at hclaims hfails
    exact ih (hw.respond hclaims.1 hfails.1) hclaims.2 hfails.2

/-- A row that waits is claimed only when its time has come. -/
theorem Waits.le_of_claims {entry : Entry} (h : db.Waits id due)
    (hclaims : (db.answered (.skipLocked lease) ceiling entry).Claims id) :
    due ≤ entry.now.toMicros := by
  obtain ⟨row, hr, heligible⟩ := eligible_of_claims h.ids hclaims
  obtain ⟨waiting, hwaiting, hwaits⟩ := h.waiting
  obtain rfl := Option.some.inj (hr.symm.trans hwaiting)
  have hunsent := unsent_of_isEligible heligible
  rw [Row.isEligible, Row.isClaimable, hwaits hunsent, Bool.and_eq_true, Bool.and_eq_true]
    at heligible
  exact of_decide_eq_true heligible.1.2

/-- The end of a lease of whole microseconds is stored as it is. -/
private theorem leaseEndedBy_of_stored {claim later : Record}
    (h : (claim.now.add lease).toMicros ≤ later.now.toMicros) : claim.LeaseEndedBy lease later where
  stored := h
  whole hlease hclaim hlater := by
    have hend : (claim.now.add lease).IsMicros := hclaim.add (Int.natCast_dvd_natCast.mpr hlease)
    rwa [hend.toMicros_eq, hlater.toMicros_eq] at h

/-- A lease has ended when the row is claimed again, or a failure has been recorded for it. -/
theorem Answers.lease_excludes {before between later : List Record} {first second : Record}
    (h : Answers (.skipLocked lease) ceiling db
      (before ++ first :: (between ++ second :: later)) last)
    (hu : (db.outbox.map (·.id)).Nodup) (hfirst : first.Claims id) (hsecond : second.Claims id)
    (hnext : ∀ record ∈ between, ¬ record.Claims id) :
    first.LeaseEndedBy lease second ∨
      ∃ record ∈ between, ∃ reason, record.Fails id reason := by
  obtain ⟨atFirst, hbefore, hrest⟩ := h.append
  cases hrest with
  | cons entry hrest =>
    obtain ⟨atSecond, hbetween, hrest⟩ := hrest.append
    cases hrest with
    | cons entry' hrest =>
      have hu' := hbefore.nodup hu
      rw [or_iff_not_imp_right]
      intro hfails
      have hwaits := hbetween.waits (waits_of_claims hu' hfirst) hnext
        fun record hm reason hf => hfails ⟨record, hm, reason, hf⟩
      exact leaseEndedBy_of_stored (hwaits.le_of_claims hsecond)

/-- Leases exclude each other. If a row is claimed and the next claim that yields it comes later,
then the lease of the first claim has ended by then, or a failure was recorded for the row between
the two. And once an acceptance is recorded for a row, no claim yields it. -/
theorem Answers.leases_exclude {records : List Record}
    (h : Answers (.skipLocked lease) ceiling db records last)
    (hu : (db.outbox.map (·.id)).Nodup) :
    (∀ before first between second later id,
      records = before ++ first :: (between ++ second :: later) →
        first.Claims id → second.Claims id → (∀ record ∈ between, ¬ record.Claims id) →
          first.LeaseEndedBy lease second ∨
            ∃ record ∈ between, ∃ reason, record.Fails id reason) ∧
      ∀ before sent later id, records = before ++ sent :: later → sent.Sends id →
        ∀ record ∈ later, ¬ record.Claims id := by
  constructor
  · rintro before first between second later id rfl hfirst hsecond hnext
    exact h.lease_excludes hu hfirst hsecond hnext
  · rintro before sent later id rfl hsent
    exact h.not_claims_after_sends hu hsent

section Handover

/-- Rows are leased for half a minute. A worker that is late records a failure while another one
holds the row, so that the row is claimed again before the second lease has ended. -/
def handover : List Entry :=
  let id := Uuid.reserved 0
  let draft : Draft := ⟨id, none, "employee", "7", "employee.created", "hr", [123, 125], .pending⟩
  [⟨.transact [draft] true, ⟨0, 0⟩, ⟨0, 0⟩⟩, ⟨.claim 10, ⟨1, 500000⟩, ⟨1, 0⟩⟩,
    ⟨.claim 10, ⟨31, 499000⟩, ⟨31, 0⟩⟩, ⟨.claim 10, ⟨31, 500000⟩, ⟨31, 0⟩⟩,
    ⟨.markFailed id "broker transport failure", ⟨32, 0⟩, ⟨32, 0⟩⟩,
    ⟨.claim 10, ⟨47, 0⟩, ⟨47, 0⟩⟩, ⟨.markSent id, ⟨48, 0⟩, ⟨48, 0⟩⟩,
    ⟨.claim 10, ⟨100, 0⟩, ⟨100, 0⟩⟩]

/-- What the database answers. -/
def handed : List Record := Database.empty.history (.skipLocked 30000000000) none handover

/-- The row is claimed three times: at first, when the lease has ended, and when the late failure
has been waited for; and not again after it is sent. -/
theorem handed_leases_exclude :
    handed.map Record.claimedIds =
        [[], [Uuid.reserved 0], [], [Uuid.reserved 0], [], [Uuid.reserved 0], [], []] ∧
      (handed[3].LeaseEndedBy 30000000000 handed[5] ∨
        ∃ record ∈ (handed.drop 4).take 1, ∃ reason, record.Fails (Uuid.reserved 0) reason) ∧
      ∀ record ∈ handed.drop 7, ¬ record.Claims (Uuid.reserved 0) := by
  obtain ⟨last, hanswers⟩ := exists_answers (.skipLocked 30000000000) none handover Database.empty
  obtain ⟨hexclude, hfinal⟩ := hanswers.leases_exclude .nil
  refine ⟨by decide +kernel, ?_, ?_⟩
  · exact hexclude (handed.take 3) handed[3] ((handed.drop 4).take 1) handed[5] (handed.drop 6)
      (Uuid.reserved 0) rfl (by decide +kernel) (by decide +kernel) (by decide +kernel)
  · exact hfinal (handed.take 6) handed[6] (handed.drop 7) (Uuid.reserved 0) rfl
      (by decide +kernel)

end Handover

end Database
end HrPipeline
