import Counsel.Proofs.Decimal.Numeral
import Counsel.Text.Blank
import Counsel.Time.Instant

/-!
Time stamps are read back.

A stamp in universal time has a date, a time of day and so many places of seconds. The calendar is
one of cycles: 400 years always have the same days, and within them the days are counted by
centuries, by groups of four years and by years (`InCycle`). So every number of days is that of its
date, and the date is one there is (`date_spec`).

* `parse?_stamp`: a stamp denotes the point in time that it was made of, up to its places.
-/

namespace Counsel.Instant

open Decimal (IsDigits digitsValue)

/-! ### Numbers of a width -/

theorem toList_zeroPadded (width n : Nat) : (zeroPadded width n).toList =
    List.replicate (width - (Nat.toDigits 10 n).length) '0' ++ Nat.toDigits 10 n := by
  have length : n.repr.length = (Nat.toDigits 10 n).length := by
    rw [← String.length_toList, Nat.toList_repr]
  simp [zeroPadded, length]

theorem isDigits_zeroPadded (width n : Nat) : IsDigits (zeroPadded width n).toList := by
  intro c member
  rw [toList_zeroPadded, List.mem_append] at member
  rcases member with zero | digit
  · rw [List.eq_of_mem_replicate zero]
    rfl
  · exact Nat.isDigit_of_mem_toDigits (by decide) (by decide) digit

theorem length_zeroPadded {width n : Nat} (wide : 0 < width) (fits : n < 10 ^ width) :
    (zeroPadded width n).toList.length = width := by
  have most : (Nat.toDigits 10 n).length ≤ width :=
    (Nat.length_toDigits_le_iff (by decide) wide).mpr fits
  rw [toList_zeroPadded, List.length_append, List.length_replicate]
  omega

theorem digitsValue_zeroPadded (width n : Nat) :
    digitsValue 0 (zeroPadded width n).toList = n := by
  have zeros : ∀ count, digitsValue 0 (List.replicate count '0') = 0 := by
    intro count
    induction count with
    | zero => rfl
    | succ count ih => exact ih
  have written : digitsValue 0 (Nat.toDigits 10 n) = n :=
    Nat.ofDigitChars_toDigits (by decide) (by decide)
  have parts : ∀ left right, digitsValue 0 (left ++ right) =
      digitsValue (digitsValue 0 left) right := fun _ _ => List.foldl_append
  rw [toList_zeroPadded, parts, zeros, written]

/-- A number of a width is read back from its digits. -/
theorem readDigits_zeroPadded {width n : Nat} (wide : 0 < width) (fits : n < 10 ^ width)
    (rest : List Char) :
    readDigits width ((zeroPadded width n).toList ++ rest) = some (n, rest) := by
  have length := length_zeroPadded wide fits
  have all : (zeroPadded width n).toList.all Char.isDigit = true :=
    List.all_eq_true.mpr (isDigits_zeroPadded width n)
  rw [readDigits, List.take_left' length, List.drop_left' length,
    if_pos ⟨length, all⟩, digitsValue_zeroPadded]

/-! ### The calendar -/

/-- The place of a day in a cycle of 400 years: its century, its group of four years, its year in
that, and the days before it. A year has 366 days only at the end of a group, and the last year of a
century only if the century is the last. -/
structure InCycle (day century group year rest : Int) : Prop where
  sum : day = 36524 * century + 1461 * group + 365 * year + rest
  centuries : 0 ≤ century ∧ century ≤ 3
  groups : 0 ≤ group ∧ group ≤ 24
  years : 0 ≤ year ∧ year ≤ 3
  days : 0 ≤ rest ∧ rest ≤ 365
  leap : rest = 365 → year = 3 ∧ (group = 24 → century = 3)

theorem exists_inCycle {day : Int} (first : 0 ≤ day) (last : day < 146097) :
    ∃ century group year rest, InCycle day century group year rest := by
  obtain ⟨century, centuries, most, within⟩ : ∃ century : Int, (0 ≤ century ∧ century ≤ 3) ∧
      (0 ≤ day - 36524 * century ∧ day - 36524 * century ≤ 36524) ∧
        (day - 36524 * century = 36524 → century = 3) :=
    ⟨min (day / 36524) 3, by omega⟩
  obtain ⟨group, groups, less⟩ : ∃ group : Int, (0 ≤ group ∧ group ≤ 24) ∧
      0 ≤ day - 36524 * century - 1461 * group ∧ day - 36524 * century - 1461 * group ≤ 1460 :=
    ⟨(day - 36524 * century) / 1461, by omega⟩
  obtain ⟨year, years, least, short⟩ : ∃ year : Int, (0 ≤ year ∧ year ≤ 3) ∧
      0 ≤ day - 36524 * century - 1461 * group - 365 * year ∧
        (day - 36524 * century - 1461 * group - 365 * year ≤ 364 ∨ year = 3) :=
    ⟨min ((day - 36524 * century - 1461 * group) / 365) 3, by omega⟩
  exact ⟨century, group, year, day - 36524 * century - 1461 * group - 365 * year, by omega,
    centuries, groups, years, by omega, by omega⟩

/-- The year of a day in a cycle. -/
theorem InCycle.yearOfEra_eq {day century group year rest : Int}
    (place : InCycle day century group year rest) :
    (day - day / 1460 + day / 36524 - day / 146096) / 365 = 100 * century + 4 * group + year := by
  obtain ⟨sum, _, _, _, _, leap⟩ := place
  have centuries : day / 36524 - day / 146096 = century := by
    rcases Int.lt_or_le day 146096 with before | last
    · have : 1461 * group + 365 * year + rest < 36524 := by omega
      omega
    · omega
  have groups : day / 1460 = 25 * century + group ∧ rest ≤ 364 ∨
      day / 1460 = 25 * century + group + 1 ∧ 1 ≤ rest := by omega
  omega

/-- The leap days before a year of a cycle. -/
theorem InCycle.leapDays_eq {day century group year rest : Int}
    (place : InCycle day century group year rest) :
    (100 * century + 4 * group + year) / 4 - (100 * century + 4 * group + year) / 100 =
      24 * century + group := by
  obtain ⟨_, _, _, _, _, _⟩ := place
  have fourths : (100 * century + 4 * group + year) / 4 = 25 * century + group := by omega
  have hundredths : (100 * century + 4 * group + year) / 100 = century := by omega
  omega

/-- The number of days to a date, by the year and the month as they are counted from March. -/
theorem daysOfDate_eq {year : Int} {month day : Nat} (march shifted : Int)
    (late : 2 < month → march = year ∧ shifted = month - 3)
    (early : month ≤ 2 → march = year - 1 ∧ shifted = month + 9) :
    daysOfDate year month day = march / 400 * 146097 + (march % 400 * 365 + march % 400 / 4 -
      march % 400 / 100 + ((153 * shifted + 2) / 5 + day - 1)) - 719468 := by
  rcases Nat.lt_or_ge 2 month with after | before
  · obtain ⟨rfl, rfl⟩ := late after
    simp only [daysOfDate, if_neg (Nat.not_le.mpr after), if_pos after]
  · obtain ⟨rfl, rfl⟩ := early before
    simp only [daysOfDate, if_pos before, if_neg (Nat.not_lt.mpr before)]

/-- The last year of a group of four is the one before a leap year, but for a group at the end of a
century that is not the last. -/
theorem isLeapYear_of_march {century group era : Int} (groups : 0 ≤ group ∧ group ≤ 24)
    (last : group = 24 → century = 3) :
    isLeapYear (100 * century + 4 * group + 3 + era * 400 + 1) = true := by
  simp only [isLeapYear, Bool.and_eq_true, Bool.or_eq_true, decide_eq_true_eq]
  omega

/-- The days of a month, by its place when months are counted from March. -/
theorem le_daysOfMonth {year shifted rest : Int} {month : Nat}
    (months : 0 ≤ shifted ∧ shifted ≤ 11) (shifts : (5 * rest + 2) / 153 = shifted)
    (most : rest ≤ 365) (leap : rest = 365 → isLeapYear year = true)
    (named : (month : Int) = if shifted < 10 then shifted + 3 else shifted - 9) :
    rest - (153 * shifted + 2) / 5 + 1 ≤ daysOfMonth year month := by
  unfold daysOfMonth
  split
  · split
    · omega
    · have : rest ≠ 365 := fun full => absurd (leap full) ‹_›
      omega
  · split
    · omega
    · omega

section Calendar

variable {days century group year rest : Int}

/-- The date of a day by its place in the cycle. A year is counted from March. -/
theorem dateOfDays_eq (place : InCycle ((days + 719468) % 146097) century group year rest) :
    dateOfDays days =
      let march := 100 * century + 4 * group + year + (days + 719468) / 146097 * 400
      let shifted := (5 * rest + 2) / 153
      let month := if shifted < 10 then shifted + 3 else shifted - 9
      (if month ≤ 2 then march + 1 else march, month, rest - (153 * shifted + 2) / 5 + 1) := by
  have dayOfYear : (days + 719468) % 146097 - (365 * (100 * century + 4 * group + year) +
      (100 * century + 4 * group + year) / 4 - (100 * century + 4 * group + year) / 100) =
        rest := by
    have leapDays := place.leapDays_eq
    obtain ⟨sum, _, _, _, _, _⟩ := place
    omega
  simp only [dateOfDays, place.yearOfEra_eq, dayOfYear]

/-- Every number of days has a date of the calendar, and is the number of days to that date. -/
theorem date_spec (days : Int) :
    let date := dateOfDays days
    (1 ≤ date.2.1 ∧ date.2.1 ≤ 12) ∧
      (1 ≤ date.2.2 ∧ date.2.2 ≤ daysOfMonth date.1 date.2.1.natAbs) ∧
      daysOfDate date.1 date.2.1.natAbs date.2.2.natAbs = days := by
  obtain ⟨century, group, year, rest, place⟩ := exists_inCycle
    (Int.emod_nonneg (days + 719468) (by decide)) (Int.emod_lt_of_pos (days + 719468) (by decide))
  rw [dateOfDays_eq place]
  have leapDays := place.leapDays_eq
  obtain ⟨sum, _, groups, _, _, leap⟩ := place
  have months : 0 ≤ (5 * rest + 2) / 153 ∧ (5 * rest + 2) / 153 ≤ 11 := by omega
  generalize shifts : (5 * rest + 2) / 153 = shifted at months ⊢
  generalize eras : (days + 719468) / 146097 = era
  dsimp only
  generalize month : (if shifted < 10 then shifted + 3 else shifted - 9) = m
  refine ⟨by omega, ⟨by omega, ?_⟩, ?_⟩
  · refine le_daysOfMonth months shifts (by omega) (fun full => ?_) (by omega)
    obtain ⟨rfl, last⟩ := leap full
    rw [if_pos (by omega)]
    exact isLeapYear_of_march groups last
  · rw [daysOfDate_eq (100 * century + 4 * group + year + era * 400) shifted (by omega) (by omega)]
    have cycles : (100 * century + 4 * group + year + era * 400) / 400 = era := by omega
    have inside : (100 * century + 4 * group + year + era * 400) % 400 =
        100 * century + 4 * group + year := by omega
    rw [cycles, inside]
    omega

end Calendar

/-! ### Stamps -/

/-- The places of seconds of a stamp, after their point. -/
def fractionText (places fraction : Nat) : String :=
  if places = 0 then "" else "." ++ zeroPadded places fraction

/-- The stamp of a point in time, in universal time and with so many places of seconds. -/
def stamp (places : Nat) (t : Instant) : String :=
  let (year, month, day) := dateOfDays (t.seconds / 86400)
  yearText year ++ "-" ++ zeroPadded 2 month.natAbs ++ "-" ++ zeroPadded 2 day.natAbs ++ "T" ++
    t.clockText ++ fractionText places (t.nanoseconds % 10 ^ 9 / 10 ^ (9 - places)) ++ "Z"

/-- The point in time without the nanoseconds beyond so many places of seconds. -/
def cutTo (places : Nat) (t : Instant) : Instant :=
  { t with nanoseconds := t.nanoseconds / 10 ^ (9 - places) * 10 ^ (9 - places) }

/-- A point in time that stamps have words for: its year has four digits, and its nanoseconds are
within a second, or within a leap second at the end of a minute. -/
structure Stampable (t : Instant) : Prop where
  years : 0 ≤ (dateOfDays (t.seconds / 86400)).1 ∧ (dateOfDays (t.seconds / 86400)).1 ≤ 9999
  within : t.nanoseconds < 10 ^ 9 ∨ t.nanoseconds < 2 * 10 ^ 9 ∧ t.seconds % 60 = 59

/-- The stamp with all nine places. -/
theorem stamp_nine (t : Instant) : t.stamp 9 = t.text := by
  rcases date : dateOfDays (t.seconds / 86400) with ⟨year, month, day⟩
  simp [stamp, text, fractionText, date, String.append_assoc]

theorem readFraction_fractionText {places fraction : Nat} (few : places ≤ 9)
    (fits : fraction < 10 ^ places) (rest : List Char) :
    readFraction ((fractionText places fraction).toList ++ 'Z' :: rest) =
      some (fraction * 10 ^ (9 - places), 'Z' :: rest) := by
  rcases Nat.eq_zero_or_pos places with rfl | some
  · obtain rfl : fraction = 0 := by omega
    rfl
  · have length := length_zeroPadded some fits
    have ends : ∀ c ∈ ('Z' :: rest).head?, c.isDigit = false := by simp
    have cut := (isDigits_zeroPadded places fraction).cut ends
    have kept :
        (zeroPadded places fraction).toList.take 9 = (zeroPadded places fraction).toList :=
      List.take_of_length_le (by omega)
    have filled : (zeroPadded places fraction).toList.isEmpty = false := by
      rw [List.isEmpty_eq_false_iff, ← List.length_pos_iff]
      omega
    simp only [fractionText, if_neg (Nat.pos_iff_ne_zero.mp some), String.toList_append]
    show readFraction ('.' :: ((zeroPadded places fraction).toList ++ 'Z' :: rest)) = _
    simp [readFraction, cut, kept, filled, length, digitsValue_zeroPadded]

/-- The parts of a stamp. -/
theorem toList_stamp {t : Instant} (places : Nat) {year month day : Int}
    (date : dateOfDays (t.seconds / 86400) = (year, month, day)) :
    (t.stamp places).toList =
      (yearText year).toList ++ '-' :: ((zeroPadded 2 month.natAbs).toList ++
      '-' :: ((zeroPadded 2 day.natAbs).toList ++ 'T' :: ((zeroPadded 2 t.timeOfDay.1).toList ++
      ':' :: ((zeroPadded 2 t.timeOfDay.2.1).toList ++ ':' ::
      ((zeroPadded 2 t.timeOfDay.2.2).toList ++ ((fractionText places
        (t.nanoseconds % 10 ^ 9 / 10 ^ (9 - places))).toList ++ ['Z'])))))) := by
  simp [stamp, date, clockText]

section Reading

variable {year month day hour minute second places fraction : Nat}

/-- Numbers in the order of a stamp, each of its width, are read as the point in time of that date
and time of day. -/
theorem parse?_parts (years : year < 10 ^ 4) (months : 1 ≤ month ∧ month ≤ 12)
    (days : 1 ≤ day ∧ day ≤ daysOfMonth year month) (hours : hour < 24) (minutes : minute < 60)
    (seconds : second ≤ 60) (few : places ≤ 9) (fits : fraction < 10 ^ places) :
    parse? ((zeroPadded 4 year).toList ++ '-' :: ((zeroPadded 2 month).toList ++
      '-' :: ((zeroPadded 2 day).toList ++ 'T' :: ((zeroPadded 2 hour).toList ++
      ':' :: ((zeroPadded 2 minute).toList ++ ':' :: ((zeroPadded 2 second).toList ++
        ((fractionText places fraction).toList ++ ['Z']))))))) =
      some ⟨daysOfDate year month day * 86400 + hour * 3600 + minute * 60 +
          (if second = 60 then 59 else second : Nat),
        fraction * 10 ^ (9 - places) + if second = 60 then Nat.pow 10 9 else 0⟩ := by
  have two : 0 < 2 := by decide
  have shortMonth : daysOfMonth year month ≤ 31 := by
    unfold daysOfMonth
    split <;> split <;> decide
  have reads {n : Nat} (short : n < 100) (rest : List Char) :
      readDigits 2 ((zeroPadded 2 n).toList ++ rest) = some (n, rest) :=
    readDigits_zeroPadded two short rest
  unfold parse?
  refine Option.bind_eq_some_iff.mpr ⟨_, readDigits_zeroPadded (by decide) years _, ?_⟩
  refine Option.bind_eq_some_iff.mpr ⟨_, rfl, ?_⟩
  refine Option.bind_eq_some_iff.mpr ⟨_, reads (by omega) _, ?_⟩
  refine Option.bind_eq_some_iff.mpr ⟨_, rfl, ?_⟩
  refine Option.bind_eq_some_iff.mpr ⟨_, reads (by omega) _, ?_⟩
  refine Option.bind_eq_some_iff.mpr ⟨_, rfl, ?_⟩
  refine Option.bind_eq_some_iff.mpr ⟨_, reads (by omega) _, ?_⟩
  refine Option.bind_eq_some_iff.mpr ⟨_, rfl, ?_⟩
  refine Option.bind_eq_some_iff.mpr ⟨_, reads (by omega) _, ?_⟩
  refine Option.bind_eq_some_iff.mpr ⟨_, rfl, ?_⟩
  refine Option.bind_eq_some_iff.mpr ⟨_, reads (by omega) _, ?_⟩
  refine Option.bind_eq_some_iff.mpr ⟨_, readFraction_fractionText few fits _, ?_⟩
  refine Option.bind_eq_some_iff.mpr ⟨_, rfl, ?_⟩
  dsimp only
  rw [if_pos ⟨rfl, months.1, months.2, days.1, days.2, hours, minutes, seconds⟩]
  simp

end Reading

/-- The time of day of a stamp. Its second is 60 just for the points of a leap second, which are
counted as those of the second before. -/
theorem timeOfDay_spec {t : Instant} (stampable : t.Stampable) :
    t.timeOfDay.1 < 24 ∧ t.timeOfDay.2.1 < 60 ∧
      ((t.nanoseconds < 10 ^ 9 ∧ t.timeOfDay.2.2 < 60 ∧
          t.seconds % 86400 = t.timeOfDay.1 * 3600 + t.timeOfDay.2.1 * 60 + t.timeOfDay.2.2) ∨
        ((10 ^ 9 ≤ t.nanoseconds ∧ t.nanoseconds < 2 * 10 ^ 9) ∧ t.timeOfDay.2.2 = 60 ∧
          t.seconds % 86400 = t.timeOfDay.1 * 3600 + t.timeOfDay.2.1 * 60 + 59)) := by
  have within := stampable.within
  simp only [timeOfDay, Nat.pow_eq]
  omega

/-- **A stamp denotes the point in time that it was made of**, up to its places. -/
theorem parse?_stamp {t : Instant} {places : Nat} (few : places ≤ 9) (stampable : t.Stampable) :
    parse? (t.stamp places).toList = some (t.cutTo places) := by
  have years := stampable.years
  have calendar := date_spec (t.seconds / 86400)
  rcases date : dateOfDays (t.seconds / 86400) with ⟨year, month, day⟩
  simp only [date] at years calendar
  obtain ⟨months, days, count⟩ := calendar
  obtain ⟨number, rfl⟩ := Int.eq_ofNat_of_zero_le years.1
  obtain ⟨hours, minutes, clock⟩ := timeOfDay_spec stampable
  have scale : 10 ^ places * 10 ^ (9 - places) = 10 ^ 9 := by
    rw [← Nat.pow_add, Nat.add_sub_of_le few]
  have fits : t.nanoseconds % 10 ^ 9 / 10 ^ (9 - places) < 10 ^ places := by
    rw [Nat.div_lt_iff_lt_mul (Nat.pow_pos (by decide)), scale]
    exact Nat.mod_lt _ (by decide)
  rw [toList_stamp places date, yearText, if_pos years, Int.natAbs_natCast]
  refine (parse?_parts (by omega) (by omega) (by omega) hours minutes (by omega) few fits).trans ?_
  rw [count, cutTo]
  rcases clock with ⟨short, second, clock⟩ | ⟨leap, second, clock⟩
  · rw [if_neg (by omega), if_neg (by omega), Nat.mod_eq_of_lt short]
    congr 2
    omega
  · have cut : t.nanoseconds / 10 ^ (9 - places) =
        t.nanoseconds % 10 ^ 9 / 10 ^ (9 - places) + 10 ^ places := by
      rw [← Nat.add_mul_div_right _ _ (Nat.pow_pos (by decide)), scale]
      congr 1
      omega
    rw [if_pos second, if_pos second, cut, Nat.add_mul, scale, Nat.pow_eq]
    congr 2
    omega

/-! ### The characters of a stamp -/

/-- The characters that stamps are made of. -/
def IsStampChar (c : Char) : Prop := c.isDigit = true ∨ c ∈ ['-', 'T', ':', '.', 'Z']

instance (c : Char) : Decidable (IsStampChar c) := inferInstanceAs (Decidable (_ ∨ _))

theorem IsStampChar.isBlank {c : Char} (stampChar : IsStampChar c) : Text.isBlank c = false := by
  rcases stampChar with digit | mark
  · simp only [Char.isDigit, Bool.and_eq_true, decide_eq_true_eq, UInt32.le_iff_toNat_le] at digit
    have least : 48 ≤ c.toNat := digit.1
    have most : c.toNat ≤ 57 := digit.2
    rw [Bool.eq_false_iff]
    simp only [Text.isBlank, ne_eq, Bool.or_eq_true, Bool.and_eq_true, decide_eq_true_eq,
      beq_iff_eq]
    omega
  · have all : ['-', 'T', ':', '.', 'Z'].all (!Text.isBlank ·) = true := by decide
    simpa using List.all_eq_true.mp all c mark

/-- A stamp has a character, and no others than digits and a few marks. -/
theorem isStampChar_of_mem {t : Instant} (stampable : t.Stampable) (places : Nat) :
    ∀ c ∈ (t.stamp places).toList, IsStampChar c := by
  rcases date : dateOfDays (t.seconds / 86400) with ⟨year, month, day⟩
  have years := stampable.years
  rw [date] at years
  have digit {width n : Nat} : ∀ c ∈ (zeroPadded width n).toList, IsStampChar c :=
    fun c member => .inl (isDigits_zeroPadded width n c member)
  have fraction (n : Nat) : ∀ c ∈ (fractionText places n).toList, IsStampChar c := by
    unfold fractionText
    split
    · simp
    · simp only [String.toList_append, List.forall_mem_append]
      exact ⟨by simp [IsStampChar], digit⟩
  rw [toList_stamp places date, yearText, if_pos years]
  simp only [List.forall_mem_append, List.forall_mem_cons]
  have mark {c : Char} (one : c ∈ ['-', 'T', ':', '.', 'Z']) : IsStampChar c := .inr one
  exact ⟨digit, mark (by decide), digit, mark (by decide), digit, mark (by decide), digit,
    mark (by decide), digit, mark (by decide), digit, fraction _, mark (by decide), by simp⟩

theorem stamp_ne_nil (t : Instant) (places : Nat) : (t.stamp places).toList ≠ [] := by
  simp [stamp]

end Counsel.Instant
