import IssueSearch.Proofs.Time.Calendar
import IssueSearch.Time.Expression

/-!
# Days before now

A clock that is a year away from both ends of the years that can be written leaves room
for the start of its day, for the times up to 90 days before it, and for the ends of the
days that start there.

* `Instant.le_year_iff`, `isRepresentable_iff`, `isSupported_iff`: years as bounds on the day;
* `Instant.earlier?_of_plain`, `Instant.filter_checked?`: calculating back in time;
* `Instant.HasDay`: an instant that a filter on its day can name;
* `hasDay_of_near`: every instant of the last 90 days is one;
* `resolve?_today`, `resolve?_days`: the expressions for them.
-/

namespace IssueSearch.Time

/-! ## Years as bounds -/

namespace Instant

/-- The year of an instant is bounded by its day. -/
theorem le_year_iff {moment : Instant} {year : Int} :
    year ≤ moment.year ↔ daysBeforeYear year ≤ moment.day + epochDay :=
  le_yearOf_iff

/-- The date of an instant exists. -/
theorem isValid_date (moment : Instant) : moment.date.isValid = true :=
  isValid_ofDay moment.day

/-- The days of the years from 1 to 9999. -/
theorem isRepresentable_iff {moment : Instant} :
    moment.isRepresentable = true ↔ -719162 ≤ moment.day ∧ moment.day < 2932897 := by
  have hlow : 1 ≤ moment.year ↔ _ := le_year_iff
  have hhigh : 10000 ≤ moment.year ↔ _ := le_year_iff
  have hfirst : daysBeforeYear 1 = 0 := by decide
  have hlast : daysBeforeYear 10000 = 3652059 := by decide
  rw [hfirst, epochDay] at hlow
  rw [hlast, epochDay] at hhigh
  simp only [isRepresentable, Bool.and_eq_true, decide_eq_true_eq]
  omega

/-- The years that calculations stay within. -/
theorem isSupported_iff {moment : Instant} :
    moment.isSupported = true ↔ -262143 ≤ moment.year ∧ moment.year ≤ 262142 := by
  have hlow : -262143 ≤ moment.year ↔ _ := le_year_iff
  have hhigh : 262143 ≤ moment.year ↔ _ := le_year_iff
  have hyears : daysBeforeYear (-262143) = -95746130 ∧ daysBeforeYear 262143 = 95745399 := by
    decide
  rw [hyears.1, epochDay, day, secondsPerDay] at hlow
  rw [hyears.2, epochDay, day, secondsPerDay] at hhigh
  simp only [isSupported, Bool.and_eq_true, decide_eq_true_eq]
  omega

/-- Calculations reach beyond the years that can be written. -/
theorem isSupported_of_isRepresentable {moment : Instant} (h : moment.isRepresentable = true) :
    moment.isSupported = true := by
  obtain ⟨hlow, hhigh⟩ := isRepresentable_iff.mp h
  simp only [day, secondsPerDay] at hlow hhigh
  simp only [isSupported, Bool.and_eq_true, decide_eq_true_eq]
  omega

/-! ## Calculating back -/

/-- The instant some seconds before, in whatever year. -/
def secondsBack (moment : Instant) (span : Nat) : Instant :=
  { moment with seconds := moment.seconds - span }

/-- Outside a leap second, an earlier instant has fewer seconds. -/
theorem earlier?_of_plain {moment : Instant} (h : moment.nanos < nanosPerSecond) (span : Nat) :
    moment.earlier? span = (moment.secondsBack span).checked? := by
  have hleap : (decide (nanosPerSecond ≤ moment.nanos) && decide (0 < span)) = false := by
    rw [decide_eq_false (by omega), Bool.false_and]
  simp [earlier?, secondsBack, hleap]

/-- Only the years that can be written matter for a value: they are all calculated with. -/
theorem filter_checked? (moment : Instant) :
    moment.checked?.filter (·.isRepresentable) =
      if moment.isRepresentable then some moment else none := by
  by_cases h : moment.isRepresentable = true
  · simp [checked?, isSupported_of_isRepresentable h, h]
  · rw [if_neg h, checked?]
    split <;> simp [h]

/-! ## The last 90 days -/

/-- The instant and the end of the day that starts there can be written. -/
def HasDay (moment : Instant) : Prop :=
  moment.isRepresentable = true ∧
    ∃ next, moment.nextDay? = some next ∧ next.isRepresentable = true

section

variable {now : Instant} (hnow : 2 ≤ now.year ∧ now.year ≤ 9998)
include hnow

/-- An instant of the last 90 days has its day. -/
theorem hasDay_of_near {moment : Instant} (hlow : now.seconds - 90 * 86400 ≤ moment.seconds)
    (hhigh : moment.seconds ≤ now.seconds) : moment.HasDay := by
  have hfirst : daysBeforeYear 2 ≤ now.day + epochDay := le_year_iff.mp hnow.1
  have hlast : ¬daysBeforeYear 9999 ≤ now.day + epochDay := by
    rw [← le_year_iff]
    omega
  have hyears : daysBeforeYear 2 = 365 ∧ daysBeforeYear 9999 = 3651694 := by decide
  rw [hyears.1, epochDay] at hfirst
  rw [hyears.2, epochDay] at hlast
  simp only [day, secondsPerDay] at hfirst hlast
  have hnext : (⟨moment.seconds + 86400, moment.nanos % nanosPerSecond⟩ :
      Instant).isRepresentable = true := by
    rw [isRepresentable_iff]
    simp only [day, secondsPerDay]
    omega
  refine ⟨?_, _, ?_, hnext⟩
  · rw [isRepresentable_iff]
    simp only [day, secondsPerDay]
    omega
  · have hlater : moment.nextDay? =
        checked? ⟨moment.seconds + 86400, moment.nanos % nanosPerSecond⟩ := rfl
    rw [hlater, checked?, if_pos (isSupported_of_isRepresentable hnext)]

/-- A time some days before now has its day. -/
theorem exists_earlier? {amount : Nat} (hamount : 1 ≤ amount ∧ amount ≤ 90) :
    ∃ moment, now.earlier? (amount * 86400) = some moment ∧ moment.HasDay := by
  let inLeap := decide (nanosPerSecond ≤ now.nanos) && decide (0 < amount * 86400)
  let moment : Instant :=
    { seconds := now.seconds - (amount * 86400 : Nat) + (if inLeap then 1 else 0)
      nanos := if inLeap then now.nanos - nanosPerSecond else now.nanos }
  have hnear : moment.HasDay := by
    refine hasDay_of_near hnow ?_ ?_ <;> dsimp only [moment] <;> split <;> omega
  refine ⟨moment, ?_, hnear⟩
  show checked? moment = some moment
  rw [checked?, if_pos (isSupported_of_isRepresentable hnear.1)]

end

end Instant

/-! ## Expressions -/

section

variable {now : Instant} (hnow : 2 ≤ now.year ∧ now.year ≤ 9998)
include hnow

/-- The start of the day is a value. -/
theorem resolve?_today :
    ∃ moment, resolve? now "today".toList = some moment ∧ moment.HasDay := by
  have hday : now.startOfDay.HasDay := by
    refine Instant.hasDay_of_near hnow ?_ ?_ <;>
      simp only [Instant.startOfDay, Instant.ofDay, Instant.day, secondsPerDay] <;> omega
  refine ⟨now.startOfDay, ?_, hday⟩
  have hresolve : resolveTrimmed? now (Text.trim "today".toList) = some now.startOfDay := rfl
  rw [resolve?, hresolve]
  simp [hday.1]

/-- A number of days before now is a value. -/
theorem resolve?_days {text : List Char} (amount : Nat)
    (hkeyword : keyword? (Text.trim text) = none)
    (hoffset : offset? (Text.trim text) = some (amount, .day))
    (hamount : 1 ≤ amount ∧ amount ≤ 90) :
    ∃ moment, resolve? now text = some moment ∧ moment.HasDay := by
  obtain ⟨moment, hmoment, hday⟩ := Instant.exists_earlier? hnow hamount
  refine ⟨moment, ?_, hday⟩
  have hbound : amount ≤ maxAmount := by
    unfold maxAmount
    omega
  have hspan : amount * 86400 ≤ maxSpan := by
    unfold maxSpan
    omega
  have hago : ago? now amount .day = some moment := by
    simp only [ago?, if_pos hbound, OffsetUnit.seconds?, if_pos hspan, hmoment]
  rw [resolve?, resolveTrimmed?, hkeyword]
  simp only [hoffset, hago]
  simp [hday.1]

end

end IssueSearch.Time
