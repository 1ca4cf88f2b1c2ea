import IssueSearch.Proofs.Text.Blank
import IssueSearch.Proofs.Text.Lowercase
import IssueSearch.Proofs.Time.Offset
import Mathlib.Order.Bounds.Defs

/-!
# Boundaries of the calendar

The keywords of a date filter stand for the latest start of a day, of a week and of a month
that is not after now, and for the day before today.

* `Instant.IsMidnight`, `Instant.IsMonday`, `Instant.IsMonthStart`: the boundaries;
* `Instant.IsLatest`: the last instant of a kind that is not after now;
* `isLatest_ofDay`: the latest of the days with a property;
* `Keyword.IsStart`: what a keyword stands for;
* `resolve?_keyword`: a keyword in any case and between blanks.
-/

namespace IssueSearch.Time

open Text (isBlank isSolid)

namespace Instant

/-! ## Boundaries -/

/-- Instants are ordered by time. -/
instance : LE Instant where
  le first second := first.seconds < second.seconds ∨
    first.seconds = second.seconds ∧ first.nanos ≤ second.nanos

/-- Whole seconds go before nanoseconds. -/
theorem le_iff {first second : Instant} : first ≤ second ↔
    first.seconds < second.seconds ∨
      first.seconds = second.seconds ∧ first.nanos ≤ second.nanos :=
  Iff.rfl

/-- The start of a day. -/
def IsMidnight (moment : Instant) : Prop :=
  moment.secondOfDay = 0 ∧ moment.nanos = 0

/-- The start of a Monday, which is whole weeks away from 2026-10-12. -/
def IsMonday (moment : Instant) : Prop :=
  moment.IsMidnight ∧ 7 ∣ moment.day - (Date.mk 2026 10 12).toDay

/-- The start of a month. -/
def IsMonthStart (moment : Instant) : Prop :=
  moment.IsMidnight ∧ moment.date.day = 1

/-- The last instant of a kind that is not after now. -/
def IsLatest (kind : Instant → Prop) (now moment : Instant) : Prop :=
  IsGreatest {other | kind other ∧ other ≤ now} moment

/-- A day that starts at midnight has the number it starts with. -/
theorem day_ofDay (day : Int) : (ofDay day).day = day := by
  simp only [ofDay, Instant.day, secondsPerDay]
  omega

/-- The midnights are the starts of the days. -/
theorem isMidnight_iff {moment : Instant} : moment.IsMidnight ↔ moment = ofDay moment.day := by
  obtain ⟨seconds, nanos⟩ := moment
  simp only [IsMidnight, secondOfDay, ofDay, day, secondsPerDay, mk.injEq]
  omega

/-- A day starts before now if it is today or before today. -/
theorem ofDay_le_iff {day : Int} {now : Instant} : ofDay day ≤ now ↔ day ≤ now.day := by
  simp only [le_iff, ofDay, Instant.day, secondsPerDay]
  omega

/-- The latest of the days with a property starts at the latest instant of this kind. -/
theorem isLatest_ofDay {kind : Instant → Prop} (property : Int → Prop)
    (hkind : ∀ moment, kind moment ↔ moment.IsMidnight ∧ property moment.day) {now : Instant}
    {day : Int} (hday : property day) (hle : day ≤ now.day)
    (hlatest : ∀ other, property other → other ≤ now.day → other ≤ day) :
    IsLatest kind now (ofDay day) := by
  refine ⟨⟨(hkind _).mpr ⟨?_, ?_⟩, ofDay_le_iff.mpr hle⟩, fun other hother => ?_⟩
  · rw [isMidnight_iff, day_ofDay]
  · rwa [day_ofDay]
  · obtain ⟨hother, hbefore⟩ := hother
    obtain ⟨hmidnight, hproperty⟩ := (hkind other).mp hother
    rw [isMidnight_iff.mp hmidnight, ofDay_le_iff] at hbefore ⊢
    rw [day_ofDay]
    exact hlatest _ hproperty hbefore

section

variable (now : Instant)

/-- The start of today is the latest midnight. -/
theorem isLatest_startOfDay : IsLatest IsMidnight now now.startOfDay :=
  isLatest_ofDay (fun _ => True) (fun _ => by simp) trivial (Int.le_refl _)
    fun _ _ hle => hle

/-- The last Monday. -/
theorem isLatest_monday : IsLatest IsMonday now (ofDay (now.day - now.daysSinceMonday)) := by
  have hmonday : (Date.mk 2026 10 12).toDay = 20738 := by decide
  have hsince : ((now.daysSinceMonday : Nat) : Int) = (now.day + 3) % 7 := by
    rw [daysSinceMonday, weekday]
    omega
  refine isLatest_ofDay (fun day => 7 ∣ day - (Date.mk 2026 10 12).toDay)
    (fun _ => Iff.rfl) ?_ ?_ ?_
  · omega
  · omega
  · intro other hother hle
    omega

/-- The first of the month is the latest start of a month. -/
theorem isLatest_startOfMonth : IsLatest IsMonthStart now now.startOfMonth := by
  obtain ⟨hone, htwelve, hfirst, hlast⟩ := Date.isValid_iff.mp (isValid_ofDay now.day)
  have hstart : (Date.ofDay now.day).monthStart.isValid = true :=
    Date.isValid_iff.mpr ⟨hone, htwelve, Nat.le_refl 1, Nat.le_trans hfirst hlast⟩
  show IsLatest IsMonthStart now (ofDay (Date.ofDay now.day).monthStart.toDay)
  refine isLatest_ofDay (fun day => (Date.ofDay day).day = 1) (fun _ => Iff.rfl) ?_ ?_ ?_
  · rw [ofDay_toDay hstart]
    rfl
  · exact (le_monthNumber_iff ⟨hone, htwelve⟩).mp (Int.le_refl _)
  · intro other hother hle
    obtain ⟨hother_one, hother_twelve, _⟩ := Date.isValid_iff.mp (isValid_ofDay other)
    have hself : (Date.ofDay other).monthStart = Date.ofDay other := by
      rw [Date.monthStart, ← hother]
    -- the month of the other day has begun by now, and so by the first of this month
    have hbegun : (Date.ofDay other).monthNumber ≤ (Date.ofDay now.day).monthNumber := by
      rwa [le_monthNumber_iff ⟨hother_one, hother_twelve⟩, hself, toDay_ofDay]
    have hmonth : (Date.ofDay (Date.ofDay now.day).monthStart.toDay).monthNumber =
        (Date.ofDay now.day).monthNumber := by
      rw [ofDay_toDay hstart]
      rfl
    rwa [← hmonth, le_monthNumber_iff ⟨hother_one, hother_twelve⟩, hself, toDay_ofDay] at hbegun

end

end Instant

/-! ## Keywords -/

namespace Keyword

open Instant

/-- How a keyword is written. -/
def spelling : Keyword → String
  | today => "today"
  | yesterday => "yesterday"
  | thisWeek => "this_week"
  | thisMonth => "this_month"

/-- What a keyword stands for.  A week that has begun is not over. -/
def IsStart (now moment : Instant) : Keyword → Prop
  | today => IsLatest IsMidnight now moment
  | yesterday => ∃ midnight, IsLatest IsMidnight now midnight ∧
      moment = midnight.secondsBack (24 * 3600)
  | thisWeek => IsLatest IsMonday now moment ∧ now.seconds < moment.seconds + 7 * 24 * 3600
  | thisMonth => IsLatest IsMonthStart now moment

/-- The value of a keyword is what it stands for, if that can be written. -/
theorem exists_isStart (now : Instant) (keyword : Keyword) :
    ∃ moment, keyword.IsStart now moment ∧
      (keyword.resolve? now).filter (·.isRepresentable) =
        if moment.isRepresentable then some moment else none := by
  have hplain : now.startOfDay.nanos < nanosPerSecond := Nat.succ_pos _
  cases keyword with
  | today => exact ⟨now.startOfDay, isLatest_startOfDay now, rfl⟩
  | yesterday =>
    refine ⟨_, ⟨now.startOfDay, isLatest_startOfDay now, rfl⟩, ?_⟩
    rw [resolve?, earlier?_of_plain hplain, filter_checked?]
  | thisWeek =>
    have hmonday : ofDay (now.day - now.daysSinceMonday) =
        now.startOfDay.secondsBack (now.daysSinceMonday * 86400) := by
      refine congrArg (Instant.mk · 0) ?_
      show (now.day - now.daysSinceMonday) * secondsPerDay =
        now.day * secondsPerDay - (now.daysSinceMonday * 86400 : Nat)
      rw [secondsPerDay]
      omega
    refine ⟨_, ⟨isLatest_monday now, ?_⟩, ?_⟩
    · show now.seconds < (now.day - now.daysSinceMonday) * secondsPerDay + 7 * 24 * 3600
      simp only [daysSinceMonday, weekday, day, secondsPerDay]
      omega
    · rw [resolve?, earlier?_of_plain hplain, filter_checked?, hmonday]
  | thisMonth => exact ⟨now.startOfMonth, isLatest_startOfMonth now, rfl⟩

/-- A keyword is recognised in any case. -/
theorem keyword?_of_spelling {keyword : Keyword} {word : List Char}
    (h : Text.eqIgnoreCase word keyword.spelling.toList = true) : keyword? word = some keyword := by
  have hlowered : Text.lowerAscii word = keyword.spelling.toList := by
    rw [(Text.eqIgnoreCase_iff _ _).mp h]
    cases keyword <;> decide
  rw [keyword?, hlowered]
  cases keyword <;> decide

/-- There are no blanks in a keyword. -/
theorem isSolid_of_spelling {keyword : Keyword} {word : List Char}
    (h : Text.eqIgnoreCase word keyword.spelling.toList = true) :
    ∀ c ∈ word, isSolid c = true := by
  have hspelling : (Text.lowerAscii keyword.spelling.toList).all isSolid = true := by
    cases keyword <;> decide
  intro c hc
  have hmem : c.toLower ∈ Text.lowerAscii keyword.spelling.toList := by
    rw [← (Text.eqIgnoreCase_iff _ _).mp h]
    exact List.mem_map_of_mem hc
  have hsolid := List.all_eq_true.mp hspelling _ hmem
  -- a capital is no blank, and any other character is its own lower case
  by_cases hupper : c.isUpper = true
  · have hrange := (Text.isUpper_iff c).mp hupper
    rw [Text.isSolid_iff]
    simp only [isBlank, Bool.or_eq_false_iff, Bool.and_eq_false_iff, decide_eq_false_iff_not,
      beq_eq_false_iff_ne]
    omega
  · rwa [Text.toLower_of_not_isUpper (by simpa using hupper)] at hsolid

end Keyword

/-- A keyword, in any letter case and between blanks, resolves to what it stands for if that
lies in the years 1 to 9999, and else to nothing. -/
theorem resolve?_keyword (now : Instant) (keyword : Keyword) {before word after : List Char}
    (hbefore : ∀ c ∈ before, isBlank c = true) (hafter : ∀ c ∈ after, isBlank c = true)
    (hword : Text.eqIgnoreCase word keyword.spelling.toList = true) :
    ∃ moment, keyword.IsStart now moment ∧
      resolve? now (before ++ word ++ after) =
        if moment.isRepresentable then some moment else none := by
  obtain ⟨moment, hstart, hvalue⟩ := keyword.exists_isStart now
  refine ⟨moment, hstart, ?_⟩
  have hsolid := Keyword.isSolid_of_spelling hword
  rw [← hvalue, resolve?, Text.trim_between_blanks hbefore hsolid hafter, resolveTrimmed?,
    Keyword.keyword?_of_spelling hword]

/-- The week of a leap day, seen from the month after it, in mixed case and between blanks. -/
theorem resolve?_keyword_leap_week :
    let now : Instant := ⟨1709287200, 0⟩
    let before := ['\u3000']
    let word := "This_WEEK".toList
    let after := ['\t']
    ((∀ c ∈ before, isBlank c = true) ∧ (∀ c ∈ after, isBlank c = true) ∧
      Text.eqIgnoreCase word Keyword.thisWeek.spelling.toList = true) ∧
    resolve? now (before ++ word ++ after) = some ⟨1708905600, 0⟩ ∧
    Keyword.thisWeek.IsStart now ⟨1708905600, 0⟩ := by
  intro now before word after
  have hbefore : ∀ c ∈ before, isBlank c = true := List.all_eq_true.mp (by decide)
  have hafter : ∀ c ∈ after, isBlank c = true := List.all_eq_true.mp (by decide)
  have hword : Text.eqIgnoreCase word Keyword.thisWeek.spelling.toList = true := by decide
  have hvalue : resolve? now (before ++ word ++ after) = some ⟨1708905600, 0⟩ := by
    decide +kernel
  obtain ⟨moment, hstart, hresolve⟩ := resolve?_keyword now .thisWeek hbefore hafter hword
  have hmoment : moment = ⟨1708905600, 0⟩ :=
    Option.some.inj (Option.ite_none_right_eq_some.mp (hresolve.symm.trans hvalue)).2
  exact ⟨⟨hbefore, hafter, hword⟩, hvalue, hmoment ▸ hstart⟩

end IssueSearch.Time
