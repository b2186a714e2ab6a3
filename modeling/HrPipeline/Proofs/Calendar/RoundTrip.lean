import HrPipeline.Proofs.Calendar.WrittenFields

/-!
# Written instants are read back

An instant is valid if it lies in the supported years and its part is less than a second, or less
than two in the last second of a minute. The written form of a valid instant denotes it.
-/

namespace HrPipeline.Calendar

open HrPipeline.Text

/-- An instant of the supported years, in a leap second only at the end of a minute. -/
structure Instant.Valid (t : Instant) : Prop where
  first : firstSecond ≤ t.second
  last : t.second < endSecond
  nano : t.nano < nanosPerSecond ∨ t.nano < 2 * nanosPerSecond ∧ t.second % 60 = 59

/-- The year of a date between the first days of two years. -/
private theorem year_bounds (d : Date) (least most : Int)
    (hl : daysBeforeYear least - daysBeforeEpoch ≤ d.epochDay)
    (hm : d.epochDay < daysBeforeYear (most + 1) - daysBeforeEpoch) :
    least ≤ d.civil.year ∧ d.civil.year ≤ most := by
  have hy := daysBeforeYear_yearAndDay (d.epochDay + daysBeforeEpoch)
  have hd := yearAndDay_lt (d.epochDay + daysBeforeEpoch)
  have hsize : (yearAndDay (d.epochDay + daysBeforeEpoch)).2 < 366 := by
    split at hd <;> omega
  have hlength : ∀ year, daysBeforeYear (year + 1) = daysBeforeYear year +
      if isLeapYear year then 366 else 365 := by
    intro year
    unfold daysBeforeYear isLeapYear
    split <;> simp only [Bool.and_eq_true, Bool.or_eq_true, decide_eq_true_eq] at * <;> omega
  have hcivil : d.civil.year = (yearAndDay (d.epochDay + daysBeforeEpoch)).1 := rfl
  have hnext := hlength (yearAndDay (d.epochDay + daysBeforeEpoch)).1
  rw [hcivil]
  generalize (yearAndDay (d.epochDay + daysBeforeEpoch)).1 = year at *
  generalize (yearAndDay (d.epochDay + daysBeforeEpoch)).2 = day at *
  have hmono : ∀ a b : Int, a ≤ b → daysBeforeYear a ≤ daysBeforeYear b := by
    intro a b hab
    unfold daysBeforeYear
    omega
  constructor
  · refine Int.not_lt.mp fun hlt => ?_
    have hle := hmono (year + 1) least (by omega)
    split at hd <;> rename_i hleap <;> simp only [hleap] at hnext <;> simp at hnext <;> omega
  · refine Int.not_lt.mp fun hlt => ?_
    have hle := hmono (most + 1) year (by omega)
    omega

/-- The month and the day of a date exist. -/
theorem Date.civil_month_day (d : Date) :
    (1 ≤ d.civil.month ∧ d.civil.month ≤ 12) ∧ 1 ≤ d.civil.day ∧
      d.civil.day ≤ (monthLengths (isLeapYear d.civil.year))[d.civil.month - 1]?.getD 0 := by
  have hl := yearAndDay_lt (d.epochDay + daysBeforeEpoch)
  obtain ⟨-, hmonth, hlength, hday, hlast⟩ := total_take_monthAndDay (monthLengths (isLeapYear
    (yearAndDay (d.epochDay + daysBeforeEpoch)).1)) 1
    (yearAndDay (d.epochDay + daysBeforeEpoch)).2 (by rw [total_monthLengths]; exact hl)
  have htwelve : ∀ leap, (monthLengths leap).length = 12 := fun leap => rfl
  rw [htwelve] at hlength
  have hcivil : d.civil.month = (monthAndDay (monthLengths (isLeapYear
      (yearAndDay (d.epochDay + daysBeforeEpoch)).1)) 1
      (yearAndDay (d.epochDay + daysBeforeEpoch)).2).1 := rfl
  refine ⟨⟨hmonth, ?_⟩, hday, hlast⟩
  omega

/-- No month has more than 31 days. -/
private theorem monthLength_le (leap : Bool) (index : Nat) :
    (monthLengths leap)[index]?.getD 0 ≤ 31 := by
  cases h : (monthLengths leap)[index]? with
  | none => simp
  | some length =>
    have hm := List.mem_of_getElem? h
    have hall : ∀ leap, ∀ length ∈ monthLengths leap, length ≤ 31 := by decide
    exact hall leap length hm

/-- A written time of day, with the sign of universal time after it. -/
theorem scanTime_written {second nano : Nat} (hs : second < 86400)
    (hn : nano < nanosPerSecond ∨ nano < 2 * nanosPerSecond ∧ second % 60 = 59)
    (rest : List Char) :
    scanTime (writtenTime second nano ++ 'Z' :: rest) = .ok ((second, nano), 'Z' :: rest) := by
  unfold nanosPerSecond at hn
  have hw : writtenTime second nano ++ 'Z' :: rest =
      lastDigits 2 (second / 3600) ++ ':' :: (lastDigits 2 (second / 60 % 60) ++ ':' ::
        (lastDigits 2 (second % 60 + nano / nanosPerSecond) ++
          (writtenFraction (nano % nanosPerSecond) ++ 'Z' :: rest))) := by
    simp [writtenTime]
  have hmark : ∀ more, mark ':' (':' :: more) = .ok more := mark_cons (by decide)
  have hhour : ∀ more, field 0 23 (lastDigits 2 (second / 3600) ++ more) =
      .ok (second / 3600, more) := field_lastDigits (by omega) (by omega) (by omega)
  have hminute : ∀ more, field 0 59 (lastDigits 2 (second / 60 % 60) ++ more) =
      .ok (second / 60 % 60, more) := field_lastDigits (by omega) (by omega) (by omega)
  have hsecond : ∀ more,
      field 0 60 (lastDigits 2 (second % 60 + nano / nanosPerSecond) ++ more) =
        .ok (second % 60 + nano / nanosPerSecond, more) :=
    field_lastDigits (Nat.zero_le _) (by unfold nanosPerSecond; omega)
      (by unfold nanosPerSecond; omega)
  have hfraction := scanFraction_written (Nat.mod_lt nano (by decide : 0 < nanosPerSecond)) rest
  rw [hw]
  unfold scanTime
  simp only [bind, Except.bind, hmark, hhour, hminute, hsecond, hfraction]
  unfold nanosPerSecond
  split
  · congr 3 <;> omega
  · congr 3 <;> omega

/-- A valid instant is assembled from its date and its time of day. -/
private theorem assemble_written {t : Instant} (h : t.Valid) (he : t.date.civil.Exists) :
    assemble t.date.civil ((t.second % 86400).toNat, t.nano) 0 = .ok t := by
  have hback := Date.toDate_civil t.date
  have hsecond : t.date.civil.toDate.epochDay * 86400 +
      ((t.second % 86400).toNat : Int) - 0 = t.second := by
    rw [hback]
    simp only [Instant.date]
    omega
  unfold assemble
  rw [if_neg (not_not_intro he), if_neg (by decide)]
  simp only [hsecond]
  rw [if_pos ⟨h.first, h.last⟩]

/-- The date of a valid instant is one of the supported dates. -/
theorem Instant.Valid.civil_exists {t : Instant} (h : t.Valid) : t.date.civil.Exists := by
  have hf : firstSecond = (daysBeforeYear firstYear - daysBeforeEpoch) * 86400 := by decide
  have he : endSecond = (daysBeforeYear (lastYear + 1) - daysBeforeEpoch) * 86400 := by decide
  have hfirst := h.first
  have hlast := h.last
  rw [hf] at hfirst
  rw [he] at hlast
  have hy := year_bounds t.date firstYear lastYear
    (by simp only [Instant.date]; omega) (by simp only [Instant.date]; omega)
  have hmd := Date.civil_month_day t.date
  exact ⟨hy.1, hy.2, hmd.1.1, hmd.1.2, hmd.2.1, hmd.2.2⟩

/-- A date that exists is scanned from its written form. -/
private theorem scanCivil_date {d : Date} (h : d.civil.Exists) (rest : List Char) :
    scanCivil (d.civil.written ++ rest) = .ok (d.civil, rest) :=
  scanCivil_written h.1 h.2.1 ⟨h.2.2.1, h.2.2.2.1⟩
    ⟨h.2.2.2.2.1, Nat.le_trans h.2.2.2.2.2 (monthLength_le _ _)⟩ rest

/-- The written form of a supported date denotes it. -/
theorem Date.read_written {d : Date} (h : d.civil.Exists) : Date.read d.written = .ok d := by
  have hcivil := scanCivil_date h []
  rw [List.append_nil] at hcivil
  unfold Date.read Date.written
  simp only [bind, Except.bind, hcivil]
  rw [if_pos (by decide), if_pos h, Date.toDate_civil]

/-- The written form of a valid instant denotes it. -/
theorem Instant.read_written {t : Instant} (h : t.Valid) : Instant.read t.written = .ok t := by
  have he := h.civil_exists
  have hcivil := scanCivil_date he
  have htime : scanTime (writtenTime (t.second % 86400).toNat t.nano ++ ['Z']) =
      .ok (((t.second % 86400).toNat, t.nano), ['Z']) :=
    scanTime_written (by omega) (by have := h.nano; omega) []
  have hw : t.written =
      t.date.civil.written ++ 'T' :: (writtenTime (t.second % 86400).toNat t.nano ++ ['Z']) := by
    simp [Instant.written, Date.written]
  have hseparator : ∀ rest, scanSeparator ('T' :: rest) = .ok rest := fun _ => rfl
  have hzone : scanZone (skipBlanks ['Z']) = .ok (0, []) := rfl
  unfold Instant.read
  rw [hw]
  simp only [bind, Except.bind, hcivil, hseparator, htime, hzone]
  exact assemble_written h he

end HrPipeline.Calendar
