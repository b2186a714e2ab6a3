import HrPipeline.Calendar.Date

/-!
# Instants

An instant is a second of universal time with a part of a second in nanoseconds. A part of
1 000 000 000 or more belongs to a leap second: it lies in the second after the one counted.
Instants are ordered by second, then by part.

`Instant.add` moves an instant by a signed number of nanoseconds. A leap second is left as soon
as the sum does not lie within it.

The instants have no end, while the clock of the pipeline has one, with the year 262142. An
operation that would have to add beyond it has no answer at all. What is said of instants after it
is said of no run of the pipeline; every run that gets its answers stays before it.
-/

namespace HrPipeline.Calendar

/-- A point of universal time. -/
structure Instant where
  /-- Seconds since 1970-01-01T00:00:00Z, leap seconds not counted. -/
  second : Int
  /-- Nanoseconds into the second; from 1 000 000 000 on, into the leap second after it. -/
  nano : Nat
deriving DecidableEq

/-- The nanoseconds of a second. -/
abbrev nanosPerSecond : Nat := 1000000000

/-- The nanoseconds of a millisecond. -/
def nanosPerMilli : Nat := 1000000

namespace Instant

/-- The order of instants: by second, then by part of the second. -/
instance : LE Instant := ⟨fun a b => a.second < b.second ∨ a.second = b.second ∧ a.nano ≤ b.nano⟩

instance (a b : Instant) : Decidable (a ≤ b) :=
  inferInstanceAs (Decidable (a.second < b.second ∨ a.second = b.second ∧ a.nano ≤ b.nano))

/-- The order in terms of seconds and parts. -/
theorem le_def (a b : Instant) :
    a ≤ b ↔ a.second < b.second ∨ a.second = b.second ∧ a.nano ≤ b.nano := Iff.rfl

/-- The order is reflexive. -/
theorem le_refl (a : Instant) : a ≤ a := by rw [le_def]; omega

/-- The order is transitive. -/
theorem le_trans {a b c : Instant} (hab : a ≤ b) (hbc : b ≤ c) : a ≤ c := by
  rw [le_def] at *; omega

/-- Any two instants are comparable. -/
theorem le_total (a b : Instant) : a ≤ b ∨ b ≤ a := by
  simp only [le_def]; omega

/-- Moves an ordinary second by whole seconds and a part that may be negative. -/
def shift (second : Int) (nano : Nat) (whole part : Int) : Instant :=
  ⟨second + whole + (nano + part) / nanosPerSecond, ((nano + part) % nanosPerSecond).toNat⟩

/-- The instant a signed number of nanoseconds later. -/
def add (t : Instant) (span : Int) : Instant :=
  let whole := span.tdiv nanosPerSecond
  let part := span.tmod nanosPerSecond
  if t.nano < nanosPerSecond then shift t.second t.nano whole part
  else if 0 < whole ∨ (0 < part ∧ 2 * (nanosPerSecond : Int) ≤ t.nano + part) then
    shift t.second (t.nano - nanosPerSecond) whole part
  else if whole < 0 then shift (t.second + 1) (t.nano - nanosPerSecond) whole part
  else ⟨t.second, (t.nano + part).toNat⟩

/-- The instant a whole number of seconds later. -/
def addSeconds (t : Instant) (seconds : Int) : Instant := t.add (seconds * nanosPerSecond)

/-- The instant a whole number of milliseconds later. -/
def addMillis (t : Instant) (millis : Int) : Instant := t.add (millis * nanosPerMilli)

/-- The day on which an instant falls. -/
def date (t : Instant) : Date := ⟨t.second / 86400⟩

/-- Outside a leap second, adding seconds moves the second and keeps the part. -/
theorem addSeconds_of_lt (t : Instant) (seconds : Int) (h : t.nano < nanosPerSecond) :
    t.addSeconds seconds = ⟨t.second + seconds, t.nano⟩ := by
  have hw : (seconds * (nanosPerSecond : Int)).tdiv nanosPerSecond = seconds :=
    Int.mul_tdiv_cancel _ (by decide)
  have hp : (seconds * (nanosPerSecond : Int)).tmod nanosPerSecond = 0 := Int.mul_tmod_left ..
  simp only [addSeconds, add, if_pos h, shift, hw, hp]
  simp only [nanosPerSecond] at h ⊢
  congr 1 <;> omega

theorem addSeconds_zero (t : Instant) : t.addSeconds 0 = t := by
  by_cases h : t.nano < nanosPerSecond
  · rw [addSeconds_of_lt t 0 h, Int.add_zero]
  · simp [addSeconds, add, h]

/-- Seconds added to an instant in a leap second count from the same part of the second before. -/
theorem addSeconds_of_leap (t : Instant) {seconds : Int} (hl : nanosPerSecond ≤ t.nano)
    (hn : t.nano < 2 * nanosPerSecond) (hs : 0 < seconds) :
    t.addSeconds seconds = ⟨t.second + seconds, t.nano - nanosPerSecond⟩ := by
  have hw : (seconds * (nanosPerSecond : Int)).tdiv nanosPerSecond = seconds :=
    Int.mul_tdiv_cancel _ (by decide)
  have hp : (seconds * (nanosPerSecond : Int)).tmod nanosPerSecond = 0 := Int.mul_tmod_left ..
  simp only [addSeconds, add, if_neg (Nat.not_lt.mpr hl), hw, hp, if_pos (Or.inl hs), shift]
  rw [mk.injEq]
  unfold nanosPerSecond at *
  omega

/-- What is added to an earlier instant comes to no later one than as much or more added to a later
instant outside a leap second. -/
theorem addSeconds_le_addSeconds {a b : Instant} {m n : Int} (hab : a ≤ b)
    (ha : a.nano < 2 * nanosPerSecond) (hb : b.nano < nanosPerSecond) (hm : 0 ≤ m) (hmn : m ≤ n) :
    a.addSeconds m ≤ b.addSeconds n := by
  rw [le_def] at hab
  rw [addSeconds_of_lt b n hb]
  by_cases hordinary : a.nano < nanosPerSecond
  · rw [addSeconds_of_lt a m hordinary, le_def]
    simp only
    omega
  · -- The earlier instant is in a leap second, and the later one is not in the second before it.
    have hlt : a.second < b.second := by omega
    rcases Int.lt_or_eq_of_le hm with hpos | rfl
    · rw [addSeconds_of_leap a (Nat.not_lt.mp hordinary) ha hpos, le_def]
      simp only
      omega
    · rw [addSeconds_zero, le_def]
      simp only
      omega

/-- The instant with everything below a whole microsecond dropped, towards 2000-01-01. -/
def toMicros (t : Instant) : Instant :=
  let nanos := (t.second - 946684800) * nanosPerSecond + t.nano
  let micros := nanos.tdiv 1000
  ⟨946684800 + micros / 1000000, (micros % 1000000).toNat * 1000⟩

end Instant
end HrPipeline.Calendar
