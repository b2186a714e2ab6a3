/-!
# Calendar dates

A date is a day of the proleptic Gregorian calendar, counted from 1970-01-01. Its year, month
and day are a second view of it: `Date.civil` computes them and `Civil.toDate` goes back, and
`Date.toDate_civil` states that nothing is lost on the way.
-/

namespace HrPipeline.Calendar

/-- A day, counted from 1970-01-01. -/
structure Date where
  epochDay : Int
deriving DecidableEq

/-- Year, month and day of the month; the triple need not exist in the calendar. -/
structure Civil where
  year : Int
  month : Nat
  day : Nat
deriving DecidableEq

/-- Every fourth year is a leap year, of the full centuries only every fourth. -/
def isLeapYear (year : Int) : Bool :=
  year % 4 = 0 && (year % 100 ≠ 0 || year % 400 = 0)

/-- The lengths of the twelve months. -/
def monthLengths (leap : Bool) : List Nat :=
  [31, if leap then 29 else 28, 31, 30, 31, 30, 31, 31, 30, 31, 30, 31]

/-- The days of some months together. -/
def total (lengths : List Nat) : Nat := lengths.foldr (· + ·) 0

@[simp] theorem total_nil : total [] = 0 := rfl

@[simp] theorem total_cons (length : Nat) (rest : List Nat) :
    total (length :: rest) = length + total rest := rfl

/-- The first year that a date can have. -/
def firstYear : Int := -262143

/-- The last year that a date can have. -/
def lastYear : Int := 262142

/-- The days from 0001-01-01 to the first day of a year. -/
def daysBeforeYear (year : Int) : Int :=
  365 * (year - 1) + (year - 1) / 4 - (year - 1) / 100 + (year - 1) / 400

/-- The days from 0001-01-01 to 1970-01-01. -/
def daysBeforeEpoch : Int := 719162

/-- Whether the triple is a date of the calendar within the supported years. -/
def Civil.Exists (c : Civil) : Prop :=
  firstYear ≤ c.year ∧ c.year ≤ lastYear ∧ 1 ≤ c.month ∧ c.month ≤ 12 ∧ 1 ≤ c.day ∧
    c.day ≤ (monthLengths (isLeapYear c.year))[c.month - 1]?.getD 0

instance (c : Civil) : Decidable c.Exists := by unfold Civil.Exists; infer_instance

/-- The day that a triple names. -/
def Civil.toDate (c : Civil) : Date :=
  ⟨daysBeforeYear c.year + total ((monthLengths (isLeapYear c.year)).take (c.month - 1))
    + (c.day : Int) - 1 - daysBeforeEpoch⟩

/-- Month and day for a day of the year counted from zero, walking over the months that are
left; `month` is the number of the first of them. -/
def monthAndDay : List Nat → Nat → Nat → Nat × Nat
  | [], month, day => (month, day + 1)
  | length :: rest, month, day =>
    if day < length then (month, day + 1) else monthAndDay rest (month + 1) (day - length)

/-- Year and day of the year (from zero) for a number of days since 0001-01-01: whole
periods of 400, 100, 4 and 1 years are split off one after the other. -/
def yearAndDay (days : Int) : Int × Nat :=
  let in400 := (days % 146097).toNat
  let centuries := min 3 (in400 / 36524)
  let in100 := in400 - 36524 * centuries
  let in4 := in100 % 1461
  let years := min 3 (in4 / 365)
  (400 * (days / 146097) + 100 * centuries + 4 * (in100 / 1461) + years + 1, in4 - 365 * years)

/-- Year, month and day of a date. -/
def Date.civil (d : Date) : Civil :=
  let (year, dayOfYear) := yearAndDay (d.epochDay + daysBeforeEpoch)
  let (month, day) := monthAndDay (monthLengths (isLeapYear year)) 1 dayOfYear
  ⟨year, month, day⟩

/-- The periods that `yearAndDay` splits off, with their bounds. -/
private theorem exists_periods (days : Int) :
    ∃ (q : Int) (c f y d : Nat), c ≤ 3 ∧ f ≤ 24 ∧ y ≤ 3 ∧ d ≤ 365 ∧
      (d = 365 → y = 3 ∧ (f = 24 → c = 3)) ∧
      days = 146097 * q + 36524 * c + 1461 * f + 365 * y + d ∧
      yearAndDay days = (400 * q + 100 * c + 4 * f + y + 1, d) := by
  have hr : 0 ≤ days % 146097 := Int.emod_nonneg _ (by decide)
  have hl : days % 146097 < 146097 := Int.emod_lt_of_pos _ (by decide)
  have hq := Int.mul_ediv_add_emod days 146097
  obtain ⟨r, hr'⟩ : ∃ r : Nat, days % 146097 = r := ⟨_, (Int.toNat_of_nonneg hr).symm⟩
  have hr'' : (days % 146097).toNat = r := by omega
  obtain ⟨c, hc⟩ : ∃ c, c = min 3 (r / 36524) := ⟨_, rfl⟩
  obtain ⟨h, hh⟩ : ∃ h, h = r - 36524 * c := ⟨_, rfl⟩
  obtain ⟨y, hy⟩ : ∃ y, y = min 3 (h % 1461 / 365) := ⟨_, rfl⟩
  have hh4 : h ≤ 36524 := by omega
  have hh3 : h = 36524 → c = 3 := by omega
  have hr4 : r = 36524 * c + h := by omega
  refine ⟨days / 146097, c, h / 1461, y, h % 1461 - 365 * y, by omega, by omega, by omega,
    by omega, ?_, by omega, ?_⟩
  · omega
  · simp only [yearAndDay, hr'', ← hc, ← hh, ← hy]
    simp

/-- The day of the year leads back to the number of days. -/
theorem daysBeforeYear_yearAndDay (days : Int) :
    daysBeforeYear (yearAndDay days).1 + (yearAndDay days).2 = days := by
  obtain ⟨q, c, f, y, d, hc, hf, hy, hd, -, hdays, he⟩ := exists_periods days
  have h4 : (400 * q + 100 * c + 4 * f + y + 1 - 1) / 4 = 100 * q + 25 * c + f := by omega
  have h100 : (400 * q + 100 * c + 4 * f + y + 1 - 1) / 100 = 4 * q + c := by omega
  have h400 : (400 * q + 100 * c + 4 * f + y + 1 - 1) / 400 = q := by omega
  simp only [he, daysBeforeYear, h4, h100, h400]
  omega

/-- The day of the year is a day of that year. -/
theorem yearAndDay_lt (days : Int) :
    (yearAndDay days).2 < if isLeapYear (yearAndDay days).1 then 366 else 365 := by
  obtain ⟨q, c, f, y, d, hc, hf, hy, hd, hlast, -, he⟩ := exists_periods days
  simp only [he]
  by_cases h : d = 365
  · obtain ⟨rfl, h24⟩ := hlast h
    have hleap : isLeapYear (400 * q + 100 * c + 4 * f + (3 : Nat) + 1) = true := by
      by_cases h25 : f = 24
      · simp [isLeapYear, h25, h24 h25]; omega
      · simp [isLeapYear]; omega
    rw [if_pos hleap]
    omega
  · split <;> omega

/-- Walking over the months splits the day of the year without loss. -/
theorem total_take_monthAndDay (lengths : List Nat) (month day : Nat) (h : day < total lengths) :
    total (lengths.take ((monthAndDay lengths month day).1 - month))
        + (monthAndDay lengths month day).2 = day + 1
      ∧ month ≤ (monthAndDay lengths month day).1
      ∧ (monthAndDay lengths month day).1 - month < lengths.length
      ∧ 1 ≤ (monthAndDay lengths month day).2
      ∧ (monthAndDay lengths month day).2
          ≤ lengths[(monthAndDay lengths month day).1 - month]?.getD 0 := by
  induction lengths generalizing month day with
  | nil => simp at h
  | cons length rest ih =>
    unfold monthAndDay
    by_cases hd : day < length
    · rw [if_pos hd]
      simp only [Nat.sub_self, List.take_zero, total_nil, List.length_cons,
        List.getElem?_cons_zero, Option.getD_some]
      omega
    · have hs : day - length < total rest := by simp at h; omega
      obtain ⟨h1, h2, h3, h4, h5⟩ := ih (month + 1) (day - length) hs
      have he : (monthAndDay rest (month + 1) (day - length)).1 - month
          = (monthAndDay rest (month + 1) (day - length)).1 - (month + 1) + 1 := by omega
      simp only [hd, ite_false]
      rw [he]
      simp only [List.take_succ_cons, total_cons, List.length_cons,
        List.getElem?_cons_succ]
      refine ⟨by omega, by omega, by omega, h4, h5⟩

/-- The lengths of the months add up to the length of the year. -/
theorem total_monthLengths (leap : Bool) :
    total (monthLengths leap) = if leap then 366 else 365 := by
  cases leap <;> rfl

/-- Year, month and day of a date lead back to the date. -/
theorem Date.toDate_civil (d : Date) : d.civil.toDate = d := by
  have hy := daysBeforeYear_yearAndDay (d.epochDay + daysBeforeEpoch)
  have hl := yearAndDay_lt (d.epochDay + daysBeforeEpoch)
  have hm := (total_take_monthAndDay (monthLengths (isLeapYear
    (yearAndDay (d.epochDay + daysBeforeEpoch)).1)) 1
    (yearAndDay (d.epochDay + daysBeforeEpoch)).2 (by rw [total_monthLengths]; exact hl)).1
  rcases d with ⟨n⟩
  simp only [Date.civil, Civil.toDate, Date.mk.injEq]
  simp only at hy hm
  omega

end HrPipeline.Calendar
