import HrPipeline.Calendar.Instant

/-!
# Instants of whole microseconds

The database keeps whole microseconds and counts no leap seconds. An instant that is one already is
stored as it is, and so is every instant that lies a number of seconds or of microseconds after it.
-/

namespace HrPipeline.Calendar.Instant

/-- A whole microsecond outside leap seconds. -/
structure IsMicros (t : Instant) : Prop where
  ordinary : t.nano < nanosPerSecond
  whole : t.nano % 1000 = 0

instance (t : Instant) : Decidable t.IsMicros :=
  decidable_of_iff (t.nano < nanosPerSecond ∧ t.nano % 1000 = 0)
    ⟨fun h => ⟨h.1, h.2⟩, fun h => ⟨h.1, h.2⟩⟩

variable {t : Instant}

/-- A whole microsecond is stored as it is. -/
theorem IsMicros.toMicros_eq (h : t.IsMicros) : t.toMicros = t := by
  obtain ⟨second, nano⟩ := t
  obtain ⟨hlt, hwhole⟩ := h
  obtain ⟨micro, rfl⟩ : ∃ micro, nano = 1000 * micro := ⟨nano / 1000, by simp only at hwhole; omega⟩
  have hnanos : (second - 946684800) * (nanosPerSecond : Int) + ((1000 * micro : Nat) : Int) =
      ((second - 946684800) * 1000000 + micro) * 1000 := by
    unfold nanosPerSecond
    omega
  simp only [toMicros, hnanos, Int.mul_tdiv_cancel _ (by decide : (1000 : Int) ≠ 0)]
  simp only [nanosPerSecond] at hlt
  congr 1 <;> omega

theorem IsMicros.addSeconds (h : t.IsMicros) (seconds : Int) : (t.addSeconds seconds).IsMicros := by
  rw [addSeconds_of_lt t seconds h.ordinary]
  exact ⟨h.ordinary, h.whole⟩

/-- A number of microseconds after a whole microsecond comes another one. -/
theorem IsMicros.add (h : t.IsMicros) {span : Int} (hspan : 1000 ∣ span) :
    (t.add span).IsMicros := by
  obtain ⟨hlt, hwhole⟩ := h
  simp only [Instant.add, if_pos hlt, shift, Int.tmod_def]
  generalize span.tdiv (nanosPerSecond : Int) = seconds
  unfold nanosPerSecond at *
  constructor
  · show Int.toNat _ < 1000000000
    omega
  · show Int.toNat _ % 1000 = 0
    omega

/-- From 2000 on, what is below a whole microsecond is cut down. -/
theorem toMicros_of_late (hordinary : t.nano < nanosPerSecond) (hlate : 946684800 ≤ t.second) :
    t.toMicros = ⟨t.second, t.nano / 1000 * 1000⟩ := by
  have hnonneg : 0 ≤ (t.second - 946684800) * (nanosPerSecond : Int) + t.nano := by
    unfold nanosPerSecond
    omega
  simp only [toMicros, Int.tdiv_eq_ediv_of_nonneg hnonneg, mk.injEq]
  unfold nanosPerSecond at *
  omega

/-- From 2000 on, a whole microsecond is not after an instant exactly if it is not after what the
database keeps of the instant. -/
theorem IsMicros.le_toMicros_iff {due : Instant} (h : due.IsMicros)
    (hordinary : t.nano < nanosPerSecond) (hlate : 946684800 ≤ t.second) :
    due ≤ t.toMicros ↔ due ≤ t := by
  have hwhole := h.whole
  rw [toMicros_of_late hordinary hlate, le_def, le_def]
  simp only
  omega

/-- What the database keeps of an instant is a whole microsecond. -/
theorem isMicros_toMicros (t : Instant) : t.toMicros.IsMicros := by
  constructor
  · show Int.toNat _ * 1000 < 1000000000
    omega
  · show Int.toNat _ * 1000 % 1000 = 0
    omega

/-- A whole microsecond that is not after an instant is not after what the database keeps of it. -/
theorem IsMicros.le_toMicros {due : Instant} (h : due.IsMicros) (hle : due ≤ t) :
    due ≤ t.toMicros := by
  obtain ⟨hlt, hwhole⟩ := h
  rw [le_def] at hle
  have hnanos : ((due.second - 946684800) * 1000000 + due.nano / 1000) * 1000 ≤
      (t.second - 946684800) * (nanosPerSecond : Int) + t.nano := by
    unfold nanosPerSecond at *
    omega
  have hmicros : (due.second - 946684800) * 1000000 + due.nano / 1000 ≤
      ((t.second - 946684800) * (nanosPerSecond : Int) + t.nano).tdiv 1000 := by
    rw [← Int.mul_tdiv_cancel ((due.second - 946684800) * 1000000 + due.nano / 1000)
      (by decide : (1000 : Int) ≠ 0)]
    exact Int.tdiv_le_tdiv (by decide) hnanos
  rw [le_def, toMicros]
  generalize ((t.second - 946684800) * (nanosPerSecond : Int) + t.nano).tdiv 1000 = micros at *
  unfold nanosPerSecond at hlt
  simp only
  omega

end HrPipeline.Calendar.Instant
