import IssueSearch.Proofs.Text.Blank
import IssueSearch.Proofs.Text.Integer
import IssueSearch.Proofs.Text.Lowercase
import IssueSearch.Proofs.Time.Calendar
import IssueSearch.Time.Expression

/-!
# The wire form of a date reads back

An instant of the years 1 to 9999 is written with three digits of the second.
Reading the written form gives the same instant down to the millisecond, at
whatever time it is read, and that instant is written in the same way.

* `readNumber?_padded`, `readNanos?_padded`: the numbers of the form;
* `readStrict?_written`: the form as a whole;
* `Instant.cut`: the instant that the written form denotes;
* `format_cut`, `isRepresentable_cut`, `resolve?_writeMillis`: it is written in
  the same way, and it is what the written form resolves to.
-/

namespace IssueSearch.Time

open Text (digitsValue isSolid)

/-! ## Numbers of a fixed width -/

/-- A padded number has the width, if its digits fit. -/
theorem length_padded {width n : Nat} (h : (Nat.toDigits 10 n).length ≤ width) :
    (padded width n).length = width := by
  simp only [padded, List.length_append, List.length_replicate]
  omega

/-- A padded number is written with digits. -/
theorem all_isDigit_padded (width n : Nat) : ∀ c ∈ padded width n, c.isDigit = true := by
  intro c hc
  simp only [padded, List.mem_append, List.mem_replicate] at hc
  rcases hc with ⟨_, rfl⟩ | hc
  · decide
  · exact Text.all_isDigit_toDigits n c hc

/-- The zeros in front do not count. -/
theorem digitsValue_padded (width n : Nat) : digitsValue (padded width n) = n := by
  rw [Text.digitsValue_eq_ofDigitChars, padded, Nat.ofDigitChars_append,
    Nat.ofDigitChars_replicate_zero, Nat.mul_zero, Nat.ofDigitChars_ten_toDigits]

/-- The digits at the start of a text are found, if there are as many as wanted or
what follows is no digit. -/
theorem leadingDigits_append {most : Nat} {digits rest : List Char}
    (hall : ∀ c ∈ digits, c.isDigit = true) (hlength : digits.length ≤ most)
    (hstop : digits.length = most ∨ ∀ c ∈ rest.head?, c.isDigit = false) :
    leadingDigits most (digits ++ rest) = digits := by
  rw [leadingDigits, List.take_append, List.take_of_length_le hlength,
    List.takeWhile_append_of_pos hall]
  rcases hstop with hfull | hstop
  · simp [hfull]
  · cases rest with
    | nil => simp
    | cons c rest =>
      have hc := hstop c rfl
      cases most - digits.length <;> simp [hc]

/-- A padded number is read where as many digits are wanted. -/
theorem readNumber?_padded {least width n : Nat} (rest : List Char) (hleast : least ≤ width)
    (h : (Nat.toDigits 10 n).length ≤ width) :
    readNumber? least width (padded width n ++ rest) = some (n, rest) := by
  have hlength := length_padded h
  rw [readNumber?, leadingDigits_append (all_isDigit_padded width n) (by omega) (Or.inl hlength)]
  simp [hlength, hleast, digitsValue_padded]

/-- Three digits of the second are read as milliseconds. -/
theorem readNanos?_padded {millis : Nat} (h : millis < 1000) :
    readNanos? (padded 3 millis ++ ['Z']) = some (millis * 1000000, ['Z']) := by
  have hdigits : (Nat.toDigits 10 millis).length ≤ 3 :=
    (Nat.length_toDigits_le_iff (by omega) (by omega)).mpr h
  have hlength := length_padded hdigits
  have hleading : leadingDigits 9 (padded 3 millis ++ ['Z']) = padded 3 millis := by
    refine leadingDigits_append (all_isDigit_padded 3 millis) (by omega) (Or.inr ?_)
    intro c hc
    cases hc
    decide
  have hrest : ['Z'].dropWhile Char.isDigit = ['Z'] := by decide
  have hdrop : (padded 3 millis ++ ['Z']).drop 3 = ['Z'] := List.drop_left' hlength
  have hnumber : readNumber? 1 9 (padded 3 millis ++ ['Z']) = some (millis, ['Z']) := by
    rw [readNumber?, hleading, hlength, hdrop, digitsValue_padded]
    rfl
  simp [readNanos?, hnumber, hleading, hlength, hrest]

/-! ## The form as a whole -/

/-- The wire form of a date and a time of day, with a written year. -/
def written (year : List Char) (month day hour minute second millis : Nat) : List Char :=
  year ++ '-' :: (padded 2 month ++ '-' :: (padded 2 day ++ 'T' ::
    (padded 2 hour ++ ':' :: (padded 2 minute ++ ':' :: (padded 2 second ++ '.' ::
      (padded 3 millis ++ ['Z']))))))

/-- Two digits are enough below a hundred. -/
theorem length_toDigits_le_two {n : Nat} (h : n < 100) : (Nat.toDigits 10 n).length ≤ 2 :=
  (Nat.length_toDigits_le_iff (by omega) (by omega)).mpr h

/-- What is read first is handed to what reads the rest. -/
theorem bind_of_some {α β : Type} {x : Option α} {a : α} (h : x = some a)
    (f : α → Option β) : (x >>= f) = f a := by
  rw [h, Option.bind_eq_bind, Option.bind_some]

/-- The wire form is read in the first of the three forms. -/
theorem readStrict?_written {year month day hour minute second millis : Nat}
    (hyear : year < 10000) (hmonth : month < 100) (hday : day < 100) (hhour : hour < 100)
    (hminute : minute < 100) (hsecond : second < 100) (hmillis : millis < 1000) :
    readStrict? (written (padded 4 year) month day hour minute second millis) =
      instantOf? ⟨year, month, day⟩ hour minute second (millis * 1000000) := by
  have hfour : (Nat.toDigits 10 year).length ≤ 4 :=
    (Nat.length_toDigits_le_iff (by omega) (by omega)).mpr hyear
  have htwo : ∀ {n : Nat} (rest : List Char), n < 100 →
      readNumber? 2 2 (padded 2 n ++ rest) = some (n, rest) := fun rest hn =>
    readNumber?_padded rest (by omega) (length_toDigits_le_two hn)
  have hchar : ∀ (c : Char) (rest : List Char), readChar? c (c :: rest) = some rest :=
    fun c rest => if_pos rfl
  have hfraction : readFraction? ('.' :: (padded 3 millis ++ ['Z'])) =
      some (millis * 1000000, ['Z']) := readNanos?_padded hmillis
  refine (bind_of_some (readNumber?_padded _ (Nat.le_refl 4) hfour) _).trans ?_
  refine (bind_of_some (hchar '-' _) _).trans ((bind_of_some (htwo _ hmonth) _).trans ?_)
  refine (bind_of_some (hchar '-' _) _).trans ((bind_of_some (htwo _ hday) _).trans ?_)
  refine (bind_of_some (congrArg (Option.or · _) (hchar 'T' _)) _).trans ?_
  refine (bind_of_some (htwo _ hhour) _).trans ?_
  refine (bind_of_some (hchar ':' _) _).trans ((bind_of_some (htwo _ hminute) _).trans ?_)
  refine (bind_of_some (hchar ':' _) _).trans ((bind_of_some (htwo _ hsecond) _).trans ?_)
  refine (bind_of_some hfraction _).trans ?_
  -- The offset is zero and nothing is left.
  show (instantOf? _ _ _ _ _ >>= fun moment => some (moment.atOffset 0)) = _
  cases instantOf? ⟨year, month, day⟩ hour minute second (millis * 1000000) with
  | none => rfl
  | some moment => simp [Instant.atOffset]

/-! ## The instant that the form denotes -/

/-- The instant that the wire form denotes.  What is below a millisecond is cut,
and a leap second that is not at the end of a minute counts as the next second. -/
def Instant.cut (moment : Instant) : Instant :=
  let kept := moment.nanos % nanosPerSecond / 1000000 * 1000000
  if moment.nanos < nanosPerSecond then { moment with nanos := kept }
  else if moment.seconds % 60 = 59 then { moment with nanos := nanosPerSecond + kept }
  else { seconds := moment.seconds + 1, nanos := kept }

/-- An instant outside a leap second, one in the leap second of a minute, and one
in a leap second elsewhere. -/
theorem cut_cases (moment : Instant) :
    (moment.nanos < nanosPerSecond ∧ moment.cut.seconds = moment.seconds ∧
      moment.cut.nanos = moment.nanos % nanosPerSecond / 1000000 * 1000000) ∨
    (nanosPerSecond ≤ moment.nanos ∧ moment.seconds % 60 = 59 ∧
      moment.cut.seconds = moment.seconds ∧
      moment.cut.nanos = nanosPerSecond + moment.nanos % nanosPerSecond / 1000000 * 1000000) ∨
    (nanosPerSecond ≤ moment.nanos ∧ moment.seconds % 60 ≠ 59 ∧
      moment.cut.seconds = moment.seconds + 1 ∧
      moment.cut.nanos = moment.nanos % nanosPerSecond / 1000000 * 1000000) := by
  unfold Instant.cut
  by_cases hplain : moment.nanos < nanosPerSecond
  · exact Or.inl ⟨hplain, by simp [hplain], by simp [hplain]⟩
  · by_cases hlast : moment.seconds % 60 = 59
    · exact Or.inr (Or.inl ⟨by omega, hlast, by simp [hplain, hlast], by simp [hplain, hlast]⟩)
    · exact Or.inr (Or.inr ⟨by omega, hlast, by simp [hplain, hlast], by simp [hplain, hlast]⟩)

/-- Two instants are equal when both of their parts are. -/
theorem Instant.eq_iff (a b : Instant) : a = b ↔ a.seconds = b.seconds ∧ a.nanos = b.nanos := by
  cases a
  cases b
  simp

/-- Cutting an instant keeps it within the minute, and so within the day. -/
theorem day_cut (moment : Instant) : moment.cut.day = moment.day := by
  rw [Instant.day, Instant.day, secondsPerDay]
  rcases cut_cases moment with ⟨_, hseconds, _⟩ | ⟨_, _, hseconds, _⟩ | ⟨_, _, hseconds, _⟩ <;>
    omega

/-- The second of the minute, counted in the day. -/
theorem secondOfDay_mod (moment : Instant) :
    ((moment.secondOfDay % 60 : Nat) : Int) = moment.seconds % 60 := by
  rw [Instant.secondOfDay, secondsPerDay]
  omega

/-- A second has a thousand milliseconds. -/
theorem millis_lt (moment : Instant) : moment.nanos % nanosPerSecond / 1000000 < 1000 := by
  rw [nanosPerSecond]
  omega

/-- A day has 86400 seconds. -/
theorem secondOfDay_lt (moment : Instant) : moment.secondOfDay < 86400 := by
  rw [Instant.secondOfDay, secondsPerDay]
  omega

/-- Only whole milliseconds are written. -/
theorem millis_cut (moment : Instant) :
    moment.cut.nanos % nanosPerSecond / 1000000 = moment.nanos % nanosPerSecond / 1000000 := by
  rcases cut_cases moment with ⟨_, _, hnanos⟩ | ⟨_, _, _, hnanos⟩ | ⟨_, _, _, hnanos⟩ <;>
    rw [hnanos, nanosPerSecond] <;> omega

/-- The cut instant is written in the same way. -/
theorem writeMillis_cut (moment : Instant) : writeMillis moment.cut = writeMillis moment := by
  have hdate : moment.cut.date = moment.date := by
    rw [Instant.date, Instant.date, day_cut]
  have hmillis := millis_cut moment
  have hbillion : nanosPerSecond = 1000000000 := rfl
  have hkept := millis_lt moment
  rcases cut_cases moment with ⟨hplain, hseconds, hnanos⟩ | ⟨hleap, _, hseconds, hnanos⟩ |
    ⟨hleap, hlast, hseconds, hnanos⟩
  · have hsecond : moment.cut.secondOfDay = moment.secondOfDay := by
      rw [Instant.secondOfDay, Instant.secondOfDay, hseconds]
    rw [writeMillis, writeMillis, writeSecond, writeSecond, hdate, hsecond, hmillis,
      if_neg (by omega), if_neg (by omega)]
  · have hsecond : moment.cut.secondOfDay = moment.secondOfDay := by
      rw [Instant.secondOfDay, Instant.secondOfDay, hseconds]
    rw [writeMillis, writeMillis, writeSecond, writeSecond, hdate, hsecond, hmillis,
      if_pos (by omega), if_pos hleap]
  · have hminute := secondOfDay_mod moment
    have hsecond : moment.cut.secondOfDay = moment.secondOfDay + 1 := by
      simp only [Instant.secondOfDay, secondsPerDay] at hminute ⊢
      omega
    have hhour : (moment.secondOfDay + 1) / 3600 = moment.secondOfDay / 3600 := by omega
    have hsixty : (moment.secondOfDay + 1) / 60 % 60 = moment.secondOfDay / 60 % 60 := by omega
    have hnext : (moment.secondOfDay + 1) % 60 + 0 = moment.secondOfDay % 60 + 1 := by omega
    rw [writeMillis, writeMillis, writeSecond, writeSecond, hdate, hsecond, hmillis,
      if_neg (by omega), if_pos hleap, hhour, hsixty, hnext]

/-- The cut instant is written in the same way. -/
theorem format_cut (moment : Instant) : moment.cut.format = moment.format := by
  rw [Instant.format, Instant.format, writeMillis_cut]

/-- The cut instant is of the same year. -/
theorem isRepresentable_cut (moment : Instant) :
    moment.cut.isRepresentable = moment.isRepresentable := by
  rw [Instant.isRepresentable, Instant.isRepresentable, Instant.year, Instant.year, Instant.date,
    Instant.date, day_cut]

/-! ## Resolving the form -/

/-- A year of four digits. -/
def IsPlainYear (year : Int) : Prop :=
  0 ≤ year ∧ year ≤ 9999

/-- A representable year has four digits. -/
theorem isPlainYear_of_isRepresentable {moment : Instant} (h : moment.isRepresentable = true) :
    IsPlainYear moment.date.year := by
  have hyears : 1 ≤ moment.year ∧ moment.year ≤ 9999 := by
    simpa [Instant.isRepresentable] using h
  exact ⟨Int.le_trans (by decide) hyears.1, hyears.2⟩

/-- A year of four digits is written without a sign. -/
theorem writeYear_of_isPlainYear {year : Int} (h : IsPlainYear year) :
    writeYear year = padded 4 year.toNat := by
  rw [writeYear, if_pos]
  simpa [IsPlainYear] using h

/-- The wire form of an instant, by its date and its time of day. -/
theorem writeMillis_eq_written (moment : Instant) :
    writeMillis moment =
      written (writeYear moment.date.year) moment.date.month moment.date.day
        (moment.secondOfDay / 3600) (moment.secondOfDay / 60 % 60)
        (moment.secondOfDay % 60 + (if nanosPerSecond ≤ moment.nanos then 1 else 0))
        (moment.nanos % nanosPerSecond / 1000000) := by
  simp [writeMillis, writeSecond, written]

/-- The instant of the date and the time of day that the wire form shows. -/
theorem instantOf?_eq_cut {moment : Instant} (hyear : IsPlainYear moment.date.year) :
    instantOf? ⟨moment.date.year.toNat, moment.date.month, moment.date.day⟩
        (moment.secondOfDay / 3600) (moment.secondOfDay / 60 % 60)
        (moment.secondOfDay % 60 + (if nanosPerSecond ≤ moment.nanos then 1 else 0))
        (moment.nanos % nanosPerSecond / 1000000 * 1000000) =
      some moment.cut := by
  have hdate : (⟨moment.date.year.toNat, moment.date.month, moment.date.day⟩ : Date) =
      moment.date := by
    rw [Int.toNat_of_nonneg hyear.1]
  have hvalid : moment.date.isValid = true := isValid_ofDay moment.day
  have htoDay : moment.date.toDay = moment.day := toDay_ofDay moment.day
  have hsecond := secondOfDay_lt moment
  have htotal : moment.seconds = moment.day * 86400 + moment.secondOfDay := by
    simp only [Instant.secondOfDay, Instant.day, secondsPerDay]
    omega
  have hminute := secondOfDay_mod moment
  rw [hdate, instantOf?, hvalid, htoDay, if_pos]
  · rw [Option.some.injEq, Instant.eq_iff, secondsPerDay]
    dsimp only
    rcases cut_cases moment with ⟨hplain, hseconds, hnanos⟩ | ⟨hleap, hlast, hseconds, hnanos⟩ |
      ⟨hleap, hlast, hseconds, hnanos⟩
    · have hnone : (if nanosPerSecond ≤ moment.nanos then 1 else 0) = 0 := if_neg (by omega)
      have hsixty : ¬ moment.secondOfDay % 60 + 0 = 60 := by omega
      rw [hseconds, hnanos, hnone, if_neg hsixty, if_neg hsixty]
      exact ⟨by omega, rfl⟩
    · have hone : (if nanosPerSecond ≤ moment.nanos then 1 else 0) = 1 := if_pos hleap
      have hsixty : moment.secondOfDay % 60 + 1 = 60 := by omega
      rw [hseconds, hnanos, hone, if_pos hsixty, if_pos hsixty]
      exact ⟨by omega, Nat.add_comm ..⟩
    · have hone : (if nanosPerSecond ≤ moment.nanos then 1 else 0) = 1 := if_pos hleap
      have hsixty : ¬ moment.secondOfDay % 60 + 1 = 60 := by omega
      rw [hseconds, hnanos, hone, if_neg hsixty, if_neg hsixty]
      exact ⟨by omega, rfl⟩
  · simp only [Bool.true_and, Bool.and_eq_true, decide_eq_true_eq]
    split <;> omega

/-- A character of the wire form. -/
def isWireChar (c : Char) : Bool :=
  c.isDigit || ['+', '-', 'T', ':', '.', 'Z'].contains c

/-- The characters of the wire form are no blanks. -/
theorem isSolid_of_isWireChar {c : Char} (h : isWireChar c = true) : isSolid c = true := by
  rw [Text.isSolid_iff]
  simp only [isWireChar, Bool.or_eq_true, List.contains_eq_mem, List.mem_cons,
    List.not_mem_nil, or_false, decide_eq_true_eq] at h
  rcases h with hdigit | rfl | rfl | rfl | rfl | rfl | rfl
  · exact Text.isBlank_of_isDigit hdigit
  all_goals decide

/-- A year is written with such characters. -/
theorem isWireChar_of_mem_writeYear {c : Char} {year : Int} (h : c ∈ writeYear year) :
    isWireChar c = true := by
  have hdigit : ∀ n : Nat, c ∈ padded 4 n → isWireChar c = true := fun n hc => by
    simp [isWireChar, all_isDigit_padded _ _ c hc]
  rw [writeYear] at h
  split at h
  · exact hdigit _ h
  · rcases List.mem_cons.mp h with rfl | h
    · split <;> decide
    · exact hdigit _ h

/-- The wire form has no other characters. -/
theorem isWireChar_of_mem_writeMillis {c : Char} {moment : Instant} (h : c ∈ writeMillis moment) :
    isWireChar c = true := by
  have hdigit : ∀ {width n : Nat}, c ∈ padded width n → isWireChar c = true := fun hc => by
    simp [isWireChar, all_isDigit_padded _ _ c hc]
  rw [writeMillis_eq_written] at h
  simp only [written, List.mem_append, List.mem_cons, List.not_mem_nil, or_false] at h
  rcases h with h | rfl | h | rfl | h | rfl | h | rfl | h | rfl | h | rfl | h | rfl
  · exact isWireChar_of_mem_writeYear h
  all_goals first | exact hdigit h | decide

/-- A digit has no letter case. -/
theorem toLower_of_isDigit {c : Char} (h : c.isDigit = true) : c.toLower = c := by
  have hbounds := Text.toNat_of_isDigit h
  exact Text.toLower_of_not_isUpper (Text.isUpper_eq_false (Or.inl (by omega)))

/-- What starts with a digit is no keyword. -/
theorem keyword?_of_isDigit {c : Char} (rest : List Char) (h : c.isDigit = true) :
    keyword? (c :: rest) = none := by
  have hne : ∀ {word : List Char} (d : Char), word.head? = some d → d.isDigit = false →
      Text.lowerAscii (c :: rest) ≠ word := by
    intro word d hword hd heq
    rw [← heq, Text.lowerAscii, List.map_cons, toLower_of_isDigit h, List.head?_cons,
      Option.some.injEq] at hword
    rw [hword, hd] at h
    cases h
  rw [keyword?, if_neg (hne 't' (by decide) (by decide)),
    if_neg (hne 'y' (by decide) (by decide)), if_neg (hne 't' (by decide) (by decide)),
    if_neg (hne 't' (by decide) (by decide))]

/-- What ends with a `Z` is no keyword. -/
theorem keyword?_append_Z (text : List Char) : keyword? (text ++ ['Z']) = none := by
  have hne : ∀ {word : List Char} (d : Char), word.getLast? = some d → d ≠ 'z' →
      Text.lowerAscii (text ++ ['Z']) ≠ word := by
    intro word d hword hd heq
    rw [← heq, Text.lowerAscii, List.map_append, List.map_singleton, List.getLast?_concat,
      Option.some.injEq] at hword
    exact hd hword.symm
  rw [keyword?, if_neg (hne 'y' (by decide) (by decide)),
    if_neg (hne 'y' (by decide) (by decide)), if_neg (hne 'k' (by decide) (by decide)),
    if_neg (hne 'h' (by decide) (by decide))]

/-- What ends with a `Z` is no offset. -/
theorem offset?_append_Z (text : List Char) : offset? (text ++ ['Z']) = none := by
  simp only [offset?, List.reverse_append, List.reverse_singleton, List.singleton_append,
    OffsetUnit.ofChar?]
  cases Text.readDigits? text.reverse.reverse <;> rfl

section

variable (moment : Instant)

/-- The wire form ends with a `Z`. -/
theorem exists_writeMillis_eq_append : ∃ text, writeMillis moment = text ++ ['Z'] :=
  ⟨_, rfl⟩

/-- The wire form of an instant has no blanks. -/
theorem isSolid_of_mem_writeMillis : ∀ c ∈ writeMillis moment, isSolid c = true :=
  fun _ hc => isSolid_of_isWireChar (isWireChar_of_mem_writeMillis hc)

/-- The wire form of an instant is no keyword. -/
theorem keyword?_writeMillis : keyword? (writeMillis moment) = none := by
  obtain ⟨text, htext⟩ := exists_writeMillis_eq_append moment
  rw [htext, keyword?_append_Z]

/-- The wire form of an instant is no offset. -/
theorem offset?_writeMillis : offset? (writeMillis moment) = none := by
  obtain ⟨text, htext⟩ := exists_writeMillis_eq_append moment
  rw [htext, offset?_append_Z]

/-- The wire form of an instant can only be read as a written date. -/
theorem resolve?_writeMillis_eq (now : Instant) :
    resolve? now (writeMillis moment) =
      (readAbsolute? (writeMillis moment)).filter (·.isRepresentable) := by
  rw [resolve?, Text.trim_of_solid (isSolid_of_mem_writeMillis moment), resolveTrimmed?,
    keyword?_writeMillis, offset?_writeMillis]

end

/-- The wire form of a year of four digits is read as the instant cut to its millisecond. -/
theorem readAbsolute?_of_isPlainYear {moment : Instant} (hyear : IsPlainYear moment.date.year) :
    readAbsolute? (writeMillis moment) = some moment.cut := by
  have hvalid : moment.date.isValid = true := isValid_ofDay moment.day
  have hmonth := bounds_of_isValid hvalid
  have hsecond : moment.secondOfDay < 86400 := secondOfDay_lt moment
  have hfour : moment.date.year.toNat < 10000 := by
    have hhigh := hyear.2
    omega
  have hstrict : readStrict? (writeMillis moment) = some moment.cut := by
    rw [writeMillis_eq_written, writeYear_of_isPlainYear hyear,
      readStrict?_written hfour (by omega) (by omega) (by omega) (by omega)
        (by split <;> omega) (millis_lt moment)]
    exact instantOf?_eq_cut hyear
  rw [readAbsolute?, hstrict, Option.some_or]

/-- The wire form of an instant starts with a digit. -/
theorem exists_writeMillis_eq_cons {moment : Instant} (h : moment.isRepresentable = true) :
    ∃ c rest, writeMillis moment = c :: rest ∧ c.isDigit = true := by
  have hyear := isPlainYear_of_isRepresentable h
  have hlength : (padded 4 moment.date.year.toNat).length = 4 := by
    have hhigh := hyear.2
    exact length_padded ((Nat.length_toDigits_le_iff (by omega) (by omega)).mpr (by omega))
  rw [writeMillis_eq_written, writeYear_of_isPlainYear hyear]
  cases hpadded : padded 4 moment.date.year.toNat with
  | nil => rw [hpadded] at hlength; cases hlength
  | cons c rest =>
    exact ⟨c, _, rfl, all_isDigit_padded 4 _ c (hpadded ▸ List.mem_cons_self)⟩

/-- At every time, the wire form of an instant resolves to the instant cut to its
millisecond. -/
theorem resolve?_writeMillis (now : Instant) {moment : Instant}
    (h : moment.isRepresentable = true) : resolve? now (writeMillis moment) = some moment.cut := by
  rw [resolve?_writeMillis_eq,
    readAbsolute?_of_isPlainYear (isPlainYear_of_isRepresentable h)]
  simp [isRepresentable_cut, h]

end IssueSearch.Time
