import IssueSearch.Proofs.Time.WireForm

/-!
# The wire form is exactly invertible

An instant of a whole number of milliseconds that lies in the years 1 to 9999 is what its wire
form resolves to.  The wire form of any other instant resolves to nothing: the year 0 is out of
range, and a year with a sign does not fit the first form, while the other two forms have no
`Z` at their end.

* `readYear?_writeYear`, `readShort?_padded`: the numbers behind a sign;
* `readLocal?_written`, `readDate?_written`: what these forms leave over;
* `Instant.IsMillis`, `cut_of_isMillis`: instants that lose nothing by writing;
* `resolve?_format`: reading what has been written.
-/

namespace IssueSearch.Time

/-! ## Numbers behind a sign -/

/-- A padded number has a first digit. -/
theorem exists_padded_eq_cons (width n : Nat) :
    ∃ c rest, padded width n = c :: rest ∧ c.isDigit = true := by
  cases hpadded : padded width n with
  | nil =>
    rw [padded, List.append_eq_nil_iff] at hpadded
    exact absurd hpadded.2 Nat.toDigits_ne_nil
  | cons c rest =>
    exact ⟨c, rest, rfl, all_isDigit_padded width n c (hpadded ▸ List.mem_cons_self)⟩

/-- A padded number of any length is read up to what follows. -/
theorem readLongNumber?_padded (width n : Nat) {rest : List Char}
    (hrest : ∀ c ∈ rest.head?, c.isDigit = false) :
    readLongNumber? (padded width n ++ rest) = some (n, rest) := by
  obtain ⟨c, more, hcons, _⟩ := exists_padded_eq_cons width n
  have hpos : 1 ≤ (padded width n).length := by
    simp [hcons]
  have hdigits : leadingDigits (padded width n ++ rest).length (padded width n ++ rest) =
      padded width n :=
    leadingDigits_append (all_isDigit_padded width n) (by simp) (Or.inr hrest)
  rw [readLongNumber?, readNumber?, hdigits, if_pos hpos, List.drop_left, digitsValue_padded]

/-- A number of two digits needs no blanks in front. -/
theorem readShort?_padded {n : Nat} (rest : List Char) (h : n < 100) :
    readShort? (padded 2 n ++ rest) = some (n, rest) := by
  obtain ⟨c, more, hcons, hdigit⟩ := exists_padded_eq_cons 2 n
  have hstart : Text.trimStart (padded 2 n ++ rest) = padded 2 n ++ rest := by
    rw [hcons, Text.trimStart, List.cons_append,
      List.dropWhile_cons_of_neg (by simp [Text.isBlank_of_isDigit hdigit])]
  rw [readShort?, hstart, readNumber?_padded rest (by omega) (length_toDigits_le_two h)]

/-- A year that needs a sign starts with it. -/
theorem writeYear_of_not_isPlainYear {year : Int} (h : ¬IsPlainYear year) :
    (year < 0 ∧ writeYear year = '-' :: padded 4 year.natAbs) ∨
      (9999 < year ∧ writeYear year = '+' :: padded 4 year.natAbs) := by
  have hplain : ¬(decide (0 ≤ year) && decide (year ≤ 9999)) = true := by
    simpa [IsPlainYear] using h
  rw [writeYear, if_neg hplain]
  simp only [IsPlainYear] at h
  by_cases hneg : year < 0
  · exact Or.inl ⟨hneg, by rw [if_pos hneg]⟩
  · exact Or.inr ⟨by omega, by rw [if_neg hneg]⟩

/-- A year with a sign is read whatever its length. -/
theorem readYear?_writeYear {year : Int} (h : ¬IsPlainYear year) {rest : List Char}
    (hrest : ∀ c ∈ rest.head?, c.isDigit = false) :
    readYear? (writeYear year ++ rest) = some (year, rest) := by
  have hnumber := readLongNumber?_padded 4 year.natAbs hrest
  rcases writeYear_of_not_isPlainYear h with ⟨hneg, hwritten⟩ | ⟨hpos, hwritten⟩
  · have hyear : -(year.natAbs : Int) = year := by omega
    have hread : readYear? ('-' :: (padded 4 year.natAbs ++ rest)) =
        (readLongNumber? (padded 4 year.natAbs ++ rest)).map
          fun found => (-(found.1 : Int), found.2) := rfl
    rw [hwritten, List.cons_append, hread, hnumber, Option.map_some, hyear]
  · have hyear : (year.natAbs : Int) = year := by omega
    have hread : readYear? ('+' :: (padded 4 year.natAbs ++ rest)) =
        (readLongNumber? (padded 4 year.natAbs ++ rest)).map
          fun found => ((found.1 : Int), found.2) := rfl
    rw [hwritten, List.cons_append, hread, hnumber, Option.map_some, hyear]

/-! ## The forms behind a sign -/

/-- The first form starts with a digit. -/
theorem readStrict?_of_not_isDigit {c : Char} (rest : List Char) (h : c.isDigit = false) :
    readStrict? (c :: rest) = none := by
  have hnumber : readNumber? 4 4 (c :: rest) = none := by
    simp [readNumber?, leadingDigits, h]
  rw [readStrict?, hnumber]
  rfl

section

variable {year : Int} (hyear : ¬IsPlainYear year) {month day hour minute second millis : Nat}
  (hmonth : month < 100) (hday : day < 100)
include hyear hmonth hday

/-- The date in front of the time of day. -/
theorem readDay?_written :
    readDay? id (written (writeYear year) month day hour minute second millis) =
    some (⟨year, month, day⟩, 'T' :: (padded 2 hour ++ ':' :: (padded 2 minute ++ ':' ::
      (padded 2 second ++ '.' :: (padded 3 millis ++ ['Z']))))) := by
  have hchar : ∀ (c : Char) (rest : List Char), readChar? c (c :: rest) = some rest :=
    fun c rest => if_pos rfl
  refine (bind_of_some (readYear?_writeYear hyear fun c hc => ?_) _).trans ?_
  · cases hc
    decide
  refine (bind_of_some (hchar '-' _) _).trans ?_
  refine (bind_of_some (readShort?_padded _ hmonth) _).trans ?_
  exact (bind_of_some (hchar '-' _) _).trans (bind_of_some (readShort?_padded _ hday) _)

/-- A date alone has no time of day behind it. -/
theorem readDate?_written :
    readDate? (written (writeYear year) month day hour minute second millis) = none :=
  bind_of_some (readDay?_written hyear hmonth hday) _

/-- A time of day in UTC has no `Z` behind it. -/
theorem readLocal?_written (hhour : hour < 100) (hminute : minute < 100) (hsecond : second < 100)
    (hmillis : millis < 1000) :
    readLocal? (written (writeYear year) month day hour minute second millis) = none := by
  have hchar : ∀ (c : Char) (rest : List Char), readChar? c (c :: rest) = some rest :=
    fun c rest => if_pos rfl
  have hfraction : readFraction? ('.' :: (padded 3 millis ++ ['Z'])) =
      some (millis * 1000000, ['Z']) := readNanos?_padded hmillis
  have htime : readTime? id ⟨year, month, day⟩ (padded 2 hour ++ ':' :: (padded 2 minute ++ ':' ::
      (padded 2 second ++ '.' :: (padded 3 millis ++ ['Z'])))) =
      (instantOf? ⟨year, month, day⟩ hour minute second (millis * 1000000) >>=
        fun moment => some (moment, ['Z'])) := by
    refine (bind_of_some (readShort?_padded _ hhour) _).trans ?_
    refine (bind_of_some (hchar ':' _) _).trans ?_
    refine (bind_of_some (readShort?_padded _ hminute) _).trans ?_
    refine (bind_of_some (hchar ':' _) _).trans ?_
    refine (bind_of_some (readShort?_padded _ hsecond) _).trans ?_
    exact bind_of_some hfraction _
  refine (bind_of_some (readDay?_written hyear hmonth hday) _).trans ?_
  refine (bind_of_some (hchar 'T' _) _).trans ?_
  rw [htime]
  cases instantOf? ⟨year, month, day⟩ hour minute second (millis * 1000000) <;> rfl

end

/-- The wire form of a year with a sign is no written date. -/
theorem readAbsolute?_of_not_isPlainYear {moment : Instant}
    (hyear : ¬IsPlainYear moment.date.year) : readAbsolute? (writeMillis moment) = none := by
  have hvalid : moment.date.isValid = true := isValid_ofDay moment.day
  obtain ⟨hmonth, hday⟩ := bounds_of_isValid hvalid
  have hsecond := secondOfDay_lt moment
  have hstrict : readStrict? (writeMillis moment) = none := by
    rw [writeMillis_eq_written, written]
    rcases writeYear_of_not_isPlainYear hyear with ⟨_, hwritten⟩ | ⟨_, hwritten⟩
    · rw [hwritten]
      exact readStrict?_of_not_isDigit _ (by decide)
    · rw [hwritten]
      exact readStrict?_of_not_isDigit _ (by decide)
  rw [readAbsolute?, hstrict, writeMillis_eq_written,
    readLocal?_written hyear (by omega) (by omega) (by omega) (by omega) (by split <;> omega)
      (millis_lt moment),
    readDate?_written hyear (by omega) (by omega)]
  rfl

/-! ## Whole milliseconds -/

/-- An instant of whole milliseconds.  A leap second is at the end of a minute. -/
def Instant.IsMillis (moment : Instant) : Prop :=
  moment.nanos % 1000000 = 0 ∧
    (moment.nanos < nanosPerSecond ∨
      moment.nanos < 2 * nanosPerSecond ∧ moment.seconds % 60 = 59)

instance : DecidablePred Instant.IsMillis :=
  fun _ => inferInstanceAs (Decidable (_ ∧ (_ ∨ _ ∧ _)))

/-- Clocks count whole milliseconds. -/
theorem isMillis_ofMillis (millis : Int) : (Instant.ofMillis millis).IsMillis := by
  simp only [Instant.IsMillis, Instant.ofMillis, nanosPerSecond]
  omega

/-- An instant of whole milliseconds loses nothing by writing. -/
theorem cut_of_isMillis {moment : Instant} (h : moment.IsMillis) : moment.cut = moment := by
  obtain ⟨hwhole, hleap⟩ := h
  rw [Instant.eq_iff]
  have hcases := cut_cases moment
  simp only [nanosPerSecond] at hleap hcases
  omega

/-- At every time, the wire form of an instant of whole milliseconds resolves to this instant if
it lies in the years 1 to 9999, and else to nothing.  It is read as a written date, and not as
a keyword or an offset.  Within these years no other instant is written in the same way. -/
theorem resolve?_format (now : Instant) {moment : Instant} (hmillis : moment.IsMillis) :
    let text := moment.format.toList
    resolve? now text = (if moment.isRepresentable then some moment else none) ∧
      Text.trim text = text ∧ keyword? text = none ∧ offset? text = none ∧
      (moment.isRepresentable = true →
        ∀ other : Instant, other.IsMillis → other.format = moment.format → other = moment) := by
  have hresolve : ∀ {other : Instant}, other.IsMillis → resolve? now other.format.toList =
      if other.isRepresentable then some other else none := by
    intro other hother
    rw [Instant.format, String.toList_ofList, resolve?_writeMillis_eq]
    by_cases hyear : IsPlainYear other.date.year
    · rw [readAbsolute?_of_isPlainYear hyear, cut_of_isMillis hother]
      by_cases h : other.isRepresentable = true <;> simp [h]
    · rw [readAbsolute?_of_not_isPlainYear hyear, if_neg, Option.filter_none]
      exact fun h => hyear (isPlainYear_of_isRepresentable h)
  have htext : moment.format.toList = writeMillis moment := String.toList_ofList ..
  refine ⟨hresolve hmillis, ?_, ?_, ?_, fun hrepresentable other hother hformat => ?_⟩
  · rw [htext, Text.trim_of_solid (isSolid_of_mem_writeMillis moment)]
  · rw [htext, keyword?_writeMillis]
  · rw [htext, offset?_writeMillis]
  · have hread := hresolve hother
    rw [hformat, hresolve hmillis, if_pos hrepresentable] at hread
    exact Option.some.inj (Option.ite_none_right_eq_some.mp hread.symm).2

/-- A quarter of a second into a leap second. -/
theorem resolve?_format_leap_second :
    let now : Instant := ⟨0, 0⟩
    let moment : Instant := ⟨1483228799, 1250000000⟩
    let text := moment.format.toList
    moment.IsMillis ∧ moment.format = "2016-12-31T23:59:60.250Z" ∧
      resolve? now text = some moment ∧
      Text.trim text = text ∧ keyword? text = none ∧ offset? text = none ∧
      ∀ other : Instant, other.IsMillis → other.format = moment.format → other = moment := by
  intro now moment text
  have hmillis : moment.IsMillis := by decide
  obtain ⟨hresolve, htrim, hkeyword, hoffset, hinjective⟩ := resolve?_format now hmillis
  have hrepresentable : moment.isRepresentable = true := by decide +kernel
  rw [if_pos hrepresentable] at hresolve
  exact ⟨hmillis, by decide +kernel, hresolve, htrim, hkeyword, hoffset,
    hinjective hrepresentable⟩

end IssueSearch.Time
