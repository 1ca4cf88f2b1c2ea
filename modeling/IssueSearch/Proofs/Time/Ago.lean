import IssueSearch.Proofs.Time.Offset
import IssueSearch.Proofs.Time.WireForm

/-!
# Offsets before now are exact

An offset is a number of hours, days, weeks or months.  Amounts that are too large for
calculations lead out of the years that can be written anyway, so that an offset has the value
of exact arithmetic whenever this can be written.

* `offset?_digits`: digits and the letter of a unit;
* `Instant.day_of_isSupported`: how late a clock can be;
* `filter_ago?_of_seconds`: offsets of a fixed length;
* `Instant.IsMonthsBefore`, `Instant.isMonthsBefore_iff`: the same time some months earlier;
* `filter_ago?_month`: offsets in months;
* `resolve?_ago`: offsets as they are written.
-/

namespace IssueSearch.Time

/-! ## Written offsets -/

/-- Digits and the letter of a unit are an offset. -/
theorem offset?_digits {digits : List Char} (hne : digits ≠ [])
    (hdigits : ∀ c ∈ digits, c.isDigit = true) (letter : Char) :
    offset? (digits ++ [letter]) =
      (OffsetUnit.ofChar? letter).map fun unit => (Text.digitsValue digits, unit) := by
  have hread : Text.readDigits? digits = some (Text.digitsValue digits) := by
    rw [Text.readDigits?, if_pos]
    simpa [hne] using hdigits
  simp only [offset?, List.reverse_append, List.reverse_singleton, List.singleton_append,
    List.reverse_reverse, hread]
  cases OffsetUnit.ofChar? letter <;> rfl

/-- The letters of the units are no blanks. -/
theorem isSolid_of_ofChar? {letter : Char} {unit : OffsetUnit}
    (h : OffsetUnit.ofChar? letter = some unit) : Text.isSolid letter = true := by
  unfold OffsetUnit.ofChar? at h
  split at h
  · decide
  · decide
  · decide
  · decide
  · cases h

/-- An offset resolves to the instant before now, if this can be written. -/
theorem resolve?_offset (now : Instant) {digits : List Char} (hne : digits ≠ [])
    (hdigits : ∀ c ∈ digits, c.isDigit = true) {letter : Char} {unit : OffsetUnit}
    (hletter : OffsetUnit.ofChar? letter = some unit) :
    resolve? now (digits ++ [letter]) =
      (ago? now (Text.digitsValue digits) unit).filter (·.isRepresentable) := by
  have hall : ∀ c ∈ digits ++ [letter], Text.isSolid c = true := by
    intro c hc
    rcases List.mem_append.mp hc with hc | hc
    · exact (Text.isSolid_iff c).mpr (Text.isBlank_of_isDigit (hdigits c hc))
    · rw [List.mem_singleton.mp hc]
      exact isSolid_of_ofChar? hletter
  have hkeyword : keyword? (digits ++ [letter]) = none := by
    cases digits with
    | nil => exact absurd rfl hne
    | cons c rest => exact keyword?_of_isDigit _ (hdigits c List.mem_cons_self)
  rw [resolve?, Text.trim_of_solid hall, resolveTrimmed?, hkeyword, offset?_digits hne hdigits,
    hletter]
  rfl

/-! ## Offsets of a fixed length -/

/-- The day of an instant that calculations reach. -/
theorem Instant.day_of_isSupported {now : Instant} (h : now.isSupported = true) :
    now.seconds ≤ 8210266876799 ∧ now.day + epochDay < daysBeforeYear 262143 := by
  have hlast : daysBeforeYear 262143 = 95745399 := by decide
  simp only [isSupported, Bool.and_eq_true, decide_eq_true_eq] at h
  rw [hlast, epochDay, day, secondsPerDay]
  omega

/-- An offset of a fixed length is exact.  What is refused is before the year 1. -/
theorem filter_ago?_of_seconds {now : Instant} (hsupported : now.isSupported = true)
    (hplain : now.nanos < nanosPerSecond) {unit : OffsetUnit} {seconds : Nat}
    (hunit : unit.seconds? = some seconds) (amount : Nat) :
    (ago? now amount unit).filter (·.isRepresentable) =
      if (now.secondsBack (amount * seconds)).isRepresentable then
        some (now.secondsBack (amount * seconds))
      else none := by
  have hbound := (Instant.day_of_isSupported hsupported).1
  have hpos : 1 ≤ seconds := by
    cases unit <;> cases hunit <;> decide
  have hle : amount ≤ amount * seconds := Nat.le_mul_of_pos_right amount hpos
  -- a refused amount leads out of the years that can be written
  have hfar : maxSpan < amount * seconds →
      ¬(now.secondsBack (amount * seconds)).isRepresentable := by
    intro hspan hrepresentable
    have hday := (Instant.isRepresentable_iff.mp hrepresentable).1
    simp only [Instant.day, Instant.secondsBack, secondsPerDay] at hday
    rw [maxSpan] at hspan
    omega
  rw [ago?, hunit]
  by_cases hspan : amount * seconds ≤ maxSpan
  · have hamount : amount ≤ maxAmount := by
      rw [maxSpan] at hspan
      rw [maxAmount]
      omega
    simp only [if_pos hamount, if_pos hspan]
    rw [Instant.earlier?_of_plain hplain, Instant.filter_checked?]
  · rw [if_neg (hfar (Nat.lt_of_not_le hspan))]
    simp only [if_neg hspan, ite_self, Option.filter_none]

/-! ## Months -/

/-- Every month has a day. -/
theorem daysInMonth_pos (leap : Bool) {month : Nat} (h : 1 ≤ month ∧ month ≤ 12) :
    1 ≤ daysInMonth leap month := by
  have hall : ∀ leap : Bool, ∀ month ≤ 12, 1 ≤ month → 1 ≤ daysInMonth leap month := by
    decide
  exact hall leap month h.2 h.1

/-- The date some months earlier exists, and its month is that many months earlier. -/
theorem isValid_monthsBefore {date : Date} (h : date.isValid = true) (count : Nat) :
    (date.monthsBefore count).isValid = true ∧
      (date.monthsBefore count).monthNumber = date.monthNumber - count := by
  obtain ⟨hone, _, hfirst, _⟩ := Date.isValid_iff.mp h
  constructor
  · rw [Date.isValid_iff]
    have hmonth : 1 ≤ (date.monthsBefore count).month ∧ (date.monthsBefore count).month ≤ 12 := by
      simp only [Date.monthsBefore]
      omega
    have hlength := daysInMonth_pos (isLeapYear (date.monthsBefore count).year) hmonth
    simp only [Date.monthsBefore] at hlength ⊢
    omega
  · simp only [Date.monthNumber, Date.monthsBefore]
    omega

namespace Instant

/-- The same time of day in the month that is some months earlier, on the same day of the
month or, if the month is too short, on its last day. -/
structure IsMonthsBefore (moment : Instant) (count : Nat) (now : Instant) : Prop where
  month : moment.date.monthNumber = now.date.monthNumber - count
  day : moment.date.day =
    min now.date.day (daysInMonth (isLeapYear moment.date.year) moment.date.month)
  secondOfDay : moment.secondOfDay = now.secondOfDay
  nanos : moment.nanos = now.nanos

/-- The instant some months earlier, in whatever year. -/
def monthsBack (now : Instant) (count : Nat) : Instant where
  seconds := (now.date.monthsBefore count).toDay * secondsPerDay + now.secondOfDay
  nanos := now.nanos

/-- The date and the time of day some months earlier. -/
theorem date_monthsBack (now : Instant) (count : Nat) :
    (now.monthsBack count).date = now.date.monthsBefore count ∧
      (now.monthsBack count).secondOfDay = now.secondOfDay := by
  have hsecond := secondOfDay_lt now
  have hday : (now.monthsBack count).day = (now.date.monthsBefore count).toDay := by
    simp only [day, monthsBack, secondsPerDay]
    omega
  constructor
  · rw [date, hday, ofDay_toDay (isValid_monthsBefore now.isValid_date count).1]
  · simp only [secondOfDay, monthsBack, secondsPerDay] at hsecond ⊢
    omega

/-- An instant is given by its date, its second of the day and its nanoseconds. -/
theorem eq_of_date_eq {first second : Instant} (hdate : first.date = second.date)
    (hsecond : first.secondOfDay = second.secondOfDay) (hnanos : first.nanos = second.nanos) :
    first = second := by
  have hday : first.day = second.day := by
    rw [← toDay_ofDay first.day, ← toDay_ofDay second.day]
    exact congrArg Date.toDay hdate
  rw [Instant.eq_iff]
  refine ⟨?_, hnanos⟩
  simp only [day, secondOfDay, secondsPerDay] at hday hsecond
  omega

/-- There is one instant some months earlier. -/
theorem isMonthsBefore_iff {now moment : Instant} {count : Nat} :
    moment.IsMonthsBefore count now ↔ moment = now.monthsBack count := by
  obtain ⟨hbackDate, hbackSecond⟩ := date_monthsBack now count
  obtain ⟨hbackValid, hbackMonth⟩ := isValid_monthsBefore now.isValid_date count
  constructor
  · intro ⟨hmonth, hday, hsecond, hnanos⟩
    refine eq_of_date_eq ?_ (hsecond.trans hbackSecond.symm) hnanos
    rw [hbackDate]
    obtain ⟨hyear, hsame⟩ := eq_of_monthNumber_eq moment.isValid_date hbackValid
      (hmonth.trans hbackMonth.symm)
    rw [hyear, hsame] at hday
    cases hdate : moment.date
    rw [hdate] at hyear hsame hday
    dsimp only at hyear hsame hday
    rw [hyear, hsame, hday]
    rfl
  · rintro rfl
    constructor
    · rw [hbackDate, hbackMonth]
    · rw [hbackDate]
      rfl
    · exact hbackSecond
    · rfl

end Instant

/-- An offset in months is exact.  What is refused is before the year 1. -/
theorem filter_ago?_month {now : Instant} (hsupported : now.isSupported = true) (amount : Nat) :
    (ago? now amount .month).filter (·.isRepresentable) =
      if (now.monthsBack amount).isRepresentable then some (now.monthsBack amount)
      else none := by
  have hyear : ¬262143 ≤ now.year := by
    rw [Instant.le_year_iff]
    exact Int.not_le.mpr (Instant.day_of_isSupported hsupported).2
  have hfar : UInt32.size ≤ amount → ¬(now.monthsBack amount).isRepresentable := by
    intro hsize hrepresentable
    obtain ⟨hback, _⟩ := Instant.date_monthsBack now amount
    have hfirst : 1 ≤ (now.monthsBack amount).year := by
      simp only [Instant.isRepresentable, Bool.and_eq_true, decide_eq_true_eq] at hrepresentable
      exact hrepresentable.1
    obtain ⟨_, htwelve, _⟩ := Date.isValid_iff.mp now.isValid_date
    rw [Instant.year, hback] at hfirst
    rw [UInt32.size] at hsize
    simp only [Date.monthsBefore, Instant.year] at hfirst hyear
    omega
  rw [ago?]
  simp only [OffsetUnit.seconds?]
  by_cases hsize : amount < UInt32.size
  · have hamount : amount ≤ maxAmount := by
      rw [UInt32.size] at hsize
      rw [maxAmount]
      omega
    rw [if_pos hamount, if_pos hsize, ← Instant.filter_checked?]
    rfl
  · rw [if_neg (hfar (Nat.le_of_not_lt hsize)), if_neg hsize, ite_self, Option.filter_none]

/-! ## Values of offsets -/

/-- A clock that counts milliseconds is set back by a thousand for each second. -/
theorem Instant.secondsBack_ofMillis (millis : Int) (seconds : Nat) :
    (ofMillis millis).secondsBack seconds = ofMillis (millis - seconds * 1000) := by
  rw [Instant.eq_iff]
  simp only [secondsBack, ofMillis]
  omega

/-- An offset is a number of hours, days, weeks or months, with any zeros in front.  It resolves
to the instant of exact arithmetic if that lies in the years 1 to 9999, and else to nothing. -/
theorem resolve?_ago (millis : Int) (hclock : (Instant.ofMillis millis).isSupported = true)
    {digits : List Char} (hne : digits ≠ []) (hdigits : ∀ c ∈ digits, c.isDigit = true) :
    let now := Instant.ofMillis millis
    let amount := Text.digitsValue digits
    (∀ (letter : Char) (seconds : Nat),
        (letter, seconds) ∈ [('h', 3600), ('d', 24 * 3600), ('w', 7 * 24 * 3600)] →
      let moment := Instant.ofMillis (millis - amount * seconds * 1000)
      resolve? now (digits ++ [letter]) =
        if moment.isRepresentable then some moment else none) ∧
    ∃ moment, (∀ other : Instant, other.IsMonthsBefore amount now ↔ other = moment) ∧
      resolve? now (digits ++ ['m']) =
        if moment.isRepresentable then some moment else none := by
  intro now amount
  constructor
  · intro letter seconds hunit moment
    have hplain : now.nanos < nanosPerSecond := by
      simp only [now, Instant.ofMillis, nanosPerSecond]
      omega
    have hback : now.secondsBack (amount * seconds) = moment := by
      rw [Instant.secondsBack_ofMillis]
      push_cast
      rfl
    obtain ⟨unit, hletter, hseconds⟩ : ∃ unit, OffsetUnit.ofChar? letter = some unit ∧
        unit.seconds? = some seconds := by
      simp only [List.mem_cons, List.not_mem_nil, or_false, Prod.mk.injEq] at hunit
      rcases hunit with ⟨rfl, rfl⟩ | ⟨rfl, rfl⟩ | ⟨rfl, rfl⟩
      · exact ⟨.hour, rfl, rfl⟩
      · exact ⟨.day, rfl, rfl⟩
      · exact ⟨.week, rfl, rfl⟩
    rw [resolve?_offset now hne hdigits hletter, filter_ago?_of_seconds hclock hplain hseconds,
      hback]
  · refine ⟨now.monthsBack amount, fun _ => Instant.isMonthsBefore_iff, ?_⟩
    have hletter : OffsetUnit.ofChar? 'm' = some .month := rfl
    rw [resolve?_offset now hne hdigits hletter, filter_ago?_month hclock]

/-- One week and one month before the end of March in a leap year. -/
theorem resolve?_ago_leap_day :
    let now := Instant.ofMillis 1711888496789
    let digits := "0001".toList
    (now.isSupported = true ∧ digits ≠ [] ∧ ∀ c ∈ digits, c.isDigit = true) ∧
    resolve? now (digits ++ ['w']) = some (Instant.ofMillis 1711283696789) ∧
    resolve? now (digits ++ ['m']) = some (Instant.ofMillis 1709210096789) ∧
    (Instant.ofMillis 1709210096789).IsMonthsBefore 1 now := by
  intro now digits
  have hclock : now.isSupported = true := by decide
  have hne : digits ≠ [] := by decide
  have hdigits : ∀ c ∈ digits, c.isDigit = true := List.all_eq_true.mp (by decide)
  obtain ⟨hseconds, moment, hmonth, hresolve⟩ :=
    resolve?_ago 1711888496789 hclock hne hdigits
  have hweek := hseconds 'w' (7 * 24 * 3600) (by decide)
  have hvalue : resolve? now (digits ++ ['m']) = some (Instant.ofMillis 1709210096789) := by
    decide +kernel
  have hmoment : moment = Instant.ofMillis 1709210096789 :=
    Option.some.inj (Option.ite_none_right_eq_some.mp (hresolve.symm.trans hvalue)).2
  refine ⟨⟨hclock, hne, hdigits⟩, ?_, hvalue, (hmonth _).mpr hmoment.symm⟩
  rw [hweek]
  decide +kernel

end IssueSearch.Time
