import IssueSearch.Time.Calendar

/-!
# Days and dates correspond

The date of a day number exists in the calendar, and its number is the day.  Every date of
the calendar is that of its number.

* `yearOf_bounds`, `le_yearOf_iff`: the day lies in its year;
* `monthOf_bounds`, `le_monthOf_iff`: the day of the year lies in its month;
* `isValid_ofDay`, `toDay_ofDay`: the date of a day;
* `ofDay_toDay`: the day of a date;
* `le_monthNumber_iff`: the days of a month and those behind it.
-/

namespace IssueSearch.Time

/-! ## Years -/

/-- The length of a year. -/
theorem daysBeforeYear_succ (year : Int) :
    daysBeforeYear (year + 1) =
      daysBeforeYear year + 365 + (if isLeapYear year = true then 1 else 0) := by
  have hleap : isLeapYear year = true ↔ year % 4 = 0 ∧ (year % 100 ≠ 0 ∨ year % 400 = 0) := by
    simp [isLeapYear]
  simp only [daysBeforeYear, hleap]
  split <;> omega

/-- A day lies between the first day of its year and that of the next. -/
theorem yearOf_bounds (n : Int) :
    daysBeforeYear (yearOf n) ≤ n ∧ n < daysBeforeYear (yearOf n + 1) := by
  -- the guess by the mean length of a year is at most one year off
  have hlow : daysBeforeYear (n * 400 / 146097 + 1 - 1) ≤ n := by
    simp only [daysBeforeYear]
    omega
  have hhigh : n < daysBeforeYear (n * 400 / 146097 + 1 + 1 + 1) := by
    simp only [daysBeforeYear]
    omega
  simp only [yearOf]
  split
  · next hbefore =>
    rw [Int.sub_add_cancel]
    exact ⟨hlow, hbefore⟩
  · next hafter =>
    split
    · next hnext => exact ⟨hnext, hhigh⟩
    · next hnext => exact ⟨by omega, by omega⟩

/-- Later years start on later days. -/
theorem daysBeforeYear_mono {first second : Int} (h : first ≤ second) :
    daysBeforeYear first ≤ daysBeforeYear second := by
  simp only [daysBeforeYear]
  omega

/-- A day is in a year or a later one if it is not before the first day of the year. -/
theorem le_yearOf_iff {year n : Int} : year ≤ yearOf n ↔ daysBeforeYear year ≤ n := by
  obtain ⟨hlow, hhigh⟩ := yearOf_bounds n
  constructor
  · intro hyear
    have hmono := daysBeforeYear_mono hyear
    omega
  · intro hday
    refine Int.not_lt.mp fun hbefore => ?_
    have hmono : daysBeforeYear (yearOf n + 1) ≤ daysBeforeYear year :=
      daysBeforeYear_mono (by omega)
    omega

/-- A day that lies between the first days of two years in a row is in the first of them. -/
theorem yearOf_eq {year n : Int} (hlow : daysBeforeYear year ≤ n)
    (hhigh : n < daysBeforeYear (year + 1)) : yearOf n = year := by
  have hle : year ≤ yearOf n := le_yearOf_iff.mpr hlow
  have hlt : ¬year + 1 ≤ yearOf n := by
    rw [le_yearOf_iff]
    omega
  omega

/-! ## Months -/

/-- A day of the year lies in the month that `monthOf` finds, which is one of the
twelve. -/
theorem monthOf_bounds (leap : Bool) {n : Nat} (h : n < 365 + (if leap = true then 1 else 0)) :
    1 ≤ monthOf leap n ∧ monthOf leap n ≤ 12 ∧ daysBeforeMonth leap (monthOf leap n) ≤ n ∧
      n < daysBeforeMonth leap (monthOf leap n + 1) := by
  have hall : ∀ leap : Bool, ∀ n < 366, n < 365 + (if leap = true then 1 else 0) →
      1 ≤ monthOf leap n ∧ monthOf leap n ≤ 12 ∧ daysBeforeMonth leap (monthOf leap n) ≤ n ∧
        n < daysBeforeMonth leap (monthOf leap n + 1) := by
    decide +kernel
  refine hall leap n ?_ h
  split at h <;> omega

/-- Later months start on later days of the year. -/
theorem daysBeforeMonth_mono (leap : Bool) {first second : Nat} (h : first ≤ second)
    (hsecond : second ≤ 13) : daysBeforeMonth leap first ≤ daysBeforeMonth leap second := by
  have hall : ∀ leap : Bool, ∀ second ≤ 13, ∀ first ≤ second,
      daysBeforeMonth leap first ≤ daysBeforeMonth leap second := by
    decide
  exact hall leap second hsecond first h

/-- The length of a year in days. -/
theorem daysBeforeMonth_thirteen (leap : Bool) :
    daysBeforeMonth leap 13 = 365 + (if leap = true then 1 else 0) := by
  cases leap <;> rfl

/-- A year starts when the months of the one before are over. -/
theorem daysBeforeYear_next (year : Int) :
    daysBeforeYear (year + 1) = daysBeforeYear year + daysBeforeMonth (isLeapYear year) 13 := by
  rw [daysBeforeYear_succ, daysBeforeMonth_thirteen]
  split <;> omega

/-- A day of the year is in a month or a later one if it is not before the first day of the
month. -/
theorem le_monthOf_iff (leap : Bool) {month n : Nat} (hmonth : month ≤ 13)
    (h : n < daysBeforeMonth leap 13) :
    month ≤ monthOf leap n ↔ daysBeforeMonth leap month ≤ n := by
  obtain ⟨_, hlast, hfirst, hnext⟩ := monthOf_bounds leap (daysBeforeMonth_thirteen leap ▸ h)
  constructor
  · intro hle
    have hmono := daysBeforeMonth_mono leap hle (by omega)
    omega
  · intro hday
    refine Nat.not_lt.mp fun hbefore => ?_
    have hmono : daysBeforeMonth leap (monthOf leap n + 1) ≤ daysBeforeMonth leap month :=
      daysBeforeMonth_mono leap (by omega) hmonth
    omega

/-- A day of the year that lies between the first days of two months in a row is in the first
of them. -/
theorem monthOf_eq (leap : Bool) {month n : Nat} (hmonth : month ≤ 12)
    (hlow : daysBeforeMonth leap month ≤ n) (hhigh : n < daysBeforeMonth leap (month + 1)) :
    monthOf leap n = month := by
  have hyear : n < daysBeforeMonth leap 13 :=
    Nat.lt_of_lt_of_le hhigh (daysBeforeMonth_mono leap (by omega) (Nat.le_refl 13))
  have hle : month ≤ monthOf leap n := (le_monthOf_iff leap (by omega) hyear).mpr hlow
  have hlt : ¬month + 1 ≤ monthOf leap n := by
    rw [le_monthOf_iff leap (by omega) hyear]
    omega
  omega

/-! ## Dates -/

/-- The day of the year of a day number. -/
theorem dayOfYear_lt (n : Int) :
    (n - daysBeforeYear (yearOf n)).toNat <
      365 + (if isLeapYear (yearOf n) = true then 1 else 0) := by
  have hyear := yearOf_bounds n
  have hlength := daysBeforeYear_succ (yearOf n)
  by_cases hleap : isLeapYear (yearOf n) = true
  · rw [if_pos hleap] at hlength ⊢
    omega
  · rw [if_neg hleap] at hlength ⊢
    omega

/-- The date of a day exists. -/
theorem isValid_ofDay (day : Int) : (Date.ofDay day).isValid = true := by
  obtain ⟨hlow, hhigh, hfirst, hlast⟩ :=
    monthOf_bounds (isLeapYear (yearOf (day + epochDay))) (dayOfYear_lt (day + epochDay))
  simp only [Date.isValid, Date.ofDay, daysInMonth, Bool.and_eq_true]
  refine ⟨⟨⟨?_, ?_⟩, ?_⟩, ?_⟩ <;> apply decide_eq_true <;> omega

/-- The month and the day of the month of a date are written with two digits. -/
theorem bounds_of_isValid {date : Date} (h : date.isValid = true) :
    date.month ≤ 12 ∧ date.day ≤ 31 := by
  have hlength : ∀ leap : Bool, ∀ month ≤ 12, daysInMonth leap month ≤ 31 := by
    decide
  simp only [Date.isValid, Bool.and_eq_true, decide_eq_true_eq] at h
  have hmonth := hlength (isLeapYear date.year) date.month h.1.1.2
  omega

/-- The date of a day has the number of the day. -/
theorem toDay_ofDay (day : Int) : (Date.ofDay day).toDay = day := by
  have hyear := (yearOf_bounds (day + epochDay)).1
  obtain ⟨_, _, hfirst, _⟩ :=
    monthOf_bounds (isLeapYear (yearOf (day + epochDay))) (dayOfYear_lt (day + epochDay))
  simp only [Date.toDay, Date.ofDay]
  omega

/-- The month and the day of a date that exists. -/
theorem Date.isValid_iff {date : Date} : date.isValid = true ↔
    1 ≤ date.month ∧ date.month ≤ 12 ∧ 1 ≤ date.day ∧
      date.day ≤ daysInMonth (isLeapYear date.year) date.month := by
  simp [isValid, and_assoc]

/-- The date of the number of a date is the date. -/
theorem ofDay_toDay {date : Date} (h : date.isValid = true) : Date.ofDay date.toDay = date := by
  obtain ⟨_, htwelve, hfirst, hlast⟩ := Date.isValid_iff.mp h
  obtain ⟨year, month, day⟩ := date
  dsimp only [daysInMonth] at htwelve hfirst hlast
  have hlength := daysBeforeYear_next year
  generalize hleap : isLeapYear year = leap at hlast hlength
  have hend : daysBeforeMonth leap (month + 1) ≤ daysBeforeMonth leap 13 :=
    daysBeforeMonth_mono leap (by omega) (Nat.le_refl 13)
  obtain ⟨n, hn⟩ : ∃ n : Nat, n = daysBeforeMonth leap month + (day - 1) := ⟨_, rfl⟩
  have hordinal : (Date.mk year month day).toDay + epochDay = daysBeforeYear year + n := by
    simp only [Date.toDay, hleap]
    omega
  have hyear : yearOf (daysBeforeYear year + n) = year := by
    apply yearOf_eq <;> omega
  have hmonth : monthOf leap n = month := monthOf_eq leap htwelve (by omega) (by omega)
  have hday : n - daysBeforeMonth leap month + 1 = day := by omega
  have hsub : (daysBeforeYear year + n - daysBeforeYear year).toNat = n := by omega
  simp only [Date.ofDay, hordinal, hyear, hsub, hleap, hmonth, hday]

/-! ## Months through all years -/

namespace Date

/-- The number of a month, counted through all years. -/
def monthNumber (date : Date) : Int :=
  date.year * 12 + date.month

/-- The first day of the month. -/
def monthStart (date : Date) : Date :=
  { date with day := 1 }

end Date

/-- The number of a month determines the year and the month of the year. -/
theorem eq_of_monthNumber_eq {first second : Date} (hfirst : first.isValid = true)
    (hsecond : second.isValid = true) (h : first.monthNumber = second.monthNumber) :
    first.year = second.year ∧ first.month = second.month := by
  obtain ⟨_, _, _⟩ := Date.isValid_iff.mp hfirst
  obtain ⟨_, _, _⟩ := Date.isValid_iff.mp hsecond
  simp only [Date.monthNumber] at h
  omega

/-- A day is in a month or a later one if it is not before the first day of the month. -/
theorem le_monthNumber_iff {date : Date} (hmonth : 1 ≤ date.month ∧ date.month ≤ 12) {day : Int} :
    date.monthNumber ≤ (Date.ofDay day).monthNumber ↔ date.monthStart.toDay ≤ day := by
  obtain ⟨hone, htwelve, _⟩ := Date.isValid_iff.mp (isValid_ofDay day)
  obtain ⟨hlow, hhigh⟩ := yearOf_bounds (day + epochDay)
  have hordinal := dayOfYear_lt (day + epochDay)
  rw [← daysBeforeMonth_thirteen] at hordinal
  have hstart : date.monthStart.toDay + epochDay =
      daysBeforeYear date.year + daysBeforeMonth (isLeapYear date.year) date.month := by
    simp only [Date.toDay, Date.monthStart]
    omega
  simp only [Date.monthNumber, Date.ofDay] at hone htwelve ⊢
  generalize yearOf (day + epochDay) = year at *
  rcases Int.lt_trichotomy date.year year with hbefore | rfl | hafter
  · have hnext := daysBeforeYear_next date.year
    have hmono : daysBeforeYear (date.year + 1) ≤ daysBeforeYear year :=
      daysBeforeYear_mono (by omega)
    have hwithin := daysBeforeMonth_mono (isLeapYear date.year) (by omega : date.month ≤ 13)
      (Nat.le_refl 13)
    omega
  · have hmonths := le_monthOf_iff (isLeapYear date.year) (by omega : date.month ≤ 13) hordinal
    omega
  · have hmono : daysBeforeYear (year + 1) ≤ daysBeforeYear date.year :=
      daysBeforeYear_mono (by omega)
    omega

end IssueSearch.Time
