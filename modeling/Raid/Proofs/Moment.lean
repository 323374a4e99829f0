import Mathlib.Tactic.IntervalCases
import Raid.Moment

/-!
The text of a moment is read back as the moment. The calendar loses nothing: the day number of the
date of a day is that day, and the date is one of the calendar.
-/

namespace Raid.Moment

open Text (digitsValue dropBlanks)

def yearOfEra (dayOfEra : Int) : Int :=
  (dayOfEra - dayOfEra / 1460 + dayOfEra / 36524 - dayOfEra / 146096) / 365

/-- The day of an era is this day of this year of it. Years begin in March, so that it is the year
after that has the leap day. -/
structure Falls (dayOfEra year day : Int) : Prop where
  years : 0 ≤ year ∧ year < 400
  days : 0 ≤ day ∧ day ≤ 365
  leap : day = 365 → isLeapYear (year + 1) = true
  sum : dayOfEra = year * 365 + year / 4 - year / 100 + day
  found : yearOfEra dayOfEra = year

/-- A day that is given by its century, its group of four years, its year and its day. The long
ones of the centuries, the groups and the years are the last. -/
theorem falls_of_cycles {century group year day : Int} (centuries : 0 ≤ century ∧ century ≤ 3)
    (groups : 0 ≤ group ∧ group ≤ 24) (years : 0 ≤ year ∧ year ≤ 3) (days : 0 ≤ day ∧ day ≤ 365)
    (long : day = 365 → year = 3 ∧ (group = 24 → century = 3)) :
    Falls (36524 * century + 1461 * group + 365 * year + day) (100 * century + 4 * group + year)
      day where
  years := by omega
  days := days
  leap last := by
    obtain ⟨rfl, whole⟩ := long last
    simp only [isLeapYear, Bool.and_eq_true, Bool.or_eq_true, decide_eq_true_eq]
    omega
  sum := by
    have four : (100 * century + 4 * group + year) / 4 = 25 * century + group := by omega
    have hundred : (100 * century + 4 * group + year) / 100 = century := by omega
    omega
  found := by
    simp only [yearOfEra]
    have groups' : (36524 * century + 1461 * group + 365 * year + day) / 1460 =
        25 * century + group + (24 * century + group + 365 * year + day) / 1460 := by omega
    have centuries' : (36524 * century + 1461 * group + 365 * year + day) / 36524 =
        century + (1461 * group + 365 * year + day) / 36524 := by omega
    have eras : (36524 * century + 1461 * group + 365 * year + day) / 146096 =
        (1461 * group + 365 * year + day) / 36524 := by omega
    have : (24 * century + group + 365 * year + day) / 1460 ≤ 1 := by omega
    have : (24 * century + group + 365 * year + day) / 1460 = 1 → year = 3 := by omega
    omega

theorem exists_falls {dayOfEra : Int} (first : 0 ≤ dayOfEra) (last : dayOfEra < 146097) :
    ∃ year day, Falls dayOfEra year day := by
  obtain ⟨century, own⟩ : ∃ century, century = min (dayOfEra / 36524) 3 := ⟨_, rfl⟩
  obtain ⟨rest, later⟩ : ∃ rest, rest = dayOfEra - 36524 * century := ⟨_, rfl⟩
  have centuries : 0 ≤ century ∧ century ≤ 3 := by omega
  have inside : 0 ≤ rest ∧ rest ≤ 36524 ∧ (rest = 36524 → century = 3) := by omega
  obtain ⟨group, own⟩ : ∃ group, group = rest / 1461 := ⟨_, rfl⟩
  obtain ⟨year, own⟩ : ∃ year, year = min (rest % 1461 / 365) 3 := ⟨_, rfl⟩
  have falls := @falls_of_cycles century group year (rest % 1461 - 365 * year) centuries
    (by omega) (by omega) (by omega) (by omega)
  have whole : dayOfEra = 36524 * century + 1461 * group + 365 * year +
      (rest % 1461 - 365 * year) := by omega
  exact ⟨_, _, whole ▸ falls⟩

/-- The month of a day of a year that begins in March, with March as month zero. -/
def monthFromMarch (day : Int) : Int := (5 * day + 2) / 153

theorem ofDayNumber_of_falls {number year day : Int}
    (falls : Falls ((number + 719468) % 146097) year day) :
    Date.ofDayNumber number =
      ⟨year + (number + 719468) / 146097 * 400 + (if monthFromMarch day < 10 then 0 else 1),
        (if monthFromMarch day < 10 then monthFromMarch day + 3
          else monthFromMarch day - 9).toNat,
        (day - (153 * monthFromMarch day + 2) / 5 + 1).toNat⟩ := by
  have own : (number + 719468) % 146097 - (365 * year + year / 4 - year / 100) = day := by
    have := falls.sum
    omega
  simp only [Date.ofDayNumber]
  rw [← yearOfEra, falls.found, own, ← monthFromMarch]
  have months : 0 ≤ monthFromMarch day ∧ monthFromMarch day ≤ 11 := by
    have := falls.days
    unfold monthFromMarch
    omega
  congr 2
  split <;> split <;> omega

structure Date.Real (date : Date) : Prop where
  month : 1 ≤ date.month ∧ date.month ≤ 12
  day : 1 ≤ date.day ∧ date.day ≤ daysInMonth date.year date.month

theorem ofDayNumber_real (number : Int) : (Date.ofDayNumber number).Real := by
  obtain ⟨year, day, falls⟩ :=
    exists_falls (show 0 ≤ (number + 719468) % 146097 by omega) (by omega)
  rw [ofDayNumber_of_falls falls]
  have days := falls.days
  have leap := falls.leap
  generalize own : monthFromMarch day = m
  unfold monthFromMarch at own
  have months : 0 ≤ m ∧ m ≤ 11 := by omega
  obtain ⟨_, _⟩ := months
  constructor
  · dsimp only
    split <;> omega
  dsimp only
  interval_cases m
  case «11» =>
    have same : isLeapYear (year + (number + 719468) / 146097 * 400 + 1) =
        isLeapYear (year + 1) := by
      simp only [isLeapYear]
      congr 2 <;> simp <;> omega
    cases leaps : isLeapYear (year + 1) <;> simp [daysInMonth, same, leaps] at leap ⊢ <;> omega
  all_goals
    simp [daysInMonth]
    omega

theorem dayNumber_ofDayNumber (number : Int) :
    (Date.ofDayNumber number).dayNumber = number := by
  obtain ⟨year, day, falls⟩ :=
    exists_falls (show 0 ≤ (number + 719468) % 146097 by omega) (by omega)
  rw [ofDayNumber_of_falls falls]
  have days := falls.days
  have years := falls.years
  have sum := falls.sum
  generalize own : monthFromMarch day = m
  unfold monthFromMarch at own
  have months : 0 ≤ m ∧ m ≤ 11 := by omega
  have era : (year + (number + 719468) / 146097 * 400) / 400 = (number + 719468) / 146097 := by
    omega
  have ofEra : (year + (number + 719468) / 146097 * 400) % 400 = year := by omega
  simp only [Date.dayNumber]
  by_cases here : m < 10
  · have later : ¬(m + 3).toNat ≤ 2 := by omega
    have month : ((m + 3).toNat : Int) - 3 = m := by omega
    simp only [here, if_true, later, if_false, Int.add_zero, era, ofEra, month]
    omega
  · have early : (m - 9).toNat ≤ 2 := by omega
    have month : ((m - 9).toNat : Int) + 9 = m := by omega
    simp only [here, if_false, early, if_true, Int.add_sub_cancel, era, ofEra, month]
    omega

theorem date_real (moment : Moment) : moment.date.Real := ofDayNumber_real _

theorem dayNumber_date (moment : Moment) : moment.date.dayNumber = moment.seconds / 86400 :=
  dayNumber_ofDayNumber _

theorem toList_padded (width value : Nat) : (padded width value).toList =
    List.replicate (width - (Nat.toDigits 10 value).length) '0' ++ Nat.toDigits 10 value :=
  String.toList_ofList

theorem isDigit_padded (width value : Nat) :
    ∀ c ∈ (padded width value).toList, c.isDigit = true := by
  intro c member
  rw [toList_padded, List.mem_append] at member
  rcases member with zero | digit
  · rw [List.eq_of_mem_replicate zero]
    rfl
  · exact Nat.isDigit_of_mem_toDigits (by decide) (by decide) digit

theorem padded_ne_nil (width value : Nat) : (padded width value).toList ≠ [] := by
  rw [toList_padded]
  exact List.append_ne_nil_of_right_ne_nil _ Nat.toDigits_ne_nil

theorem padded_first (width value : Nat) :
    ∃ c others, (padded width value).toList = c :: others ∧ c.isDigit = true := by
  obtain ⟨c, others, split⟩ := List.exists_cons_of_ne_nil (padded_ne_nil width value)
  exact ⟨c, others, split, isDigit_padded width value c (by simp [split])⟩

theorem length_padded {width value : Nat} (filled : 0 < width) (small : value < 10 ^ width) :
    (padded width value).toList.length = width := by
  have short : (Nat.toDigits 10 value).length ≤ width :=
    (Nat.length_toDigits_le_iff (by decide) filled).mpr small
  rw [toList_padded, List.length_append, List.length_replicate]
  omega

theorem digitsValue_padded (width value : Nat) :
    digitsValue (padded width value).toList = value := by
  have same : ∀ digits, digitsValue digits = Nat.ofDigitChars 10 digits 0 := by
    intro digits
    simp only [digitsValue, Nat.ofDigitChars, Nat.mul_comm]
    rfl
  rw [same, toList_padded, Nat.ofDigitChars_append, Nat.ofDigitChars_replicate_zero, Nat.mul_zero,
    Nat.ofDigitChars_toDigits (by decide) (by decide)]

theorem dropBlanks_cons {c : Char} (filled : Text.isBlank c = false) (rest : List Char) :
    dropBlanks (c :: rest) = c :: rest := by
  simp [dropBlanks, filled]

theorem filled_of_digit {c : Char} (digit : c.isDigit = true) : Text.isBlank c = false := by
  have : 48 ≤ c.toNat ∧ c.toNat ≤ 57 := by
    simpa [Char.isDigit, UInt32.le_iff_toNat_le] using digit
  simp [Text.isBlank]
  omega

theorem dropBlanks_padded (width value : Nat) (rest : List Char) :
    dropBlanks ((padded width value).toList ++ rest) = (padded width value).toList ++ rest := by
  obtain ⟨c, digits, split, digit⟩ := padded_first width value
  rw [split]
  exact dropBlanks_cons (filled_of_digit digit) _

namespace Reader

theorem digits_append {most : Nat} {taken rest : List Char} (each : ∀ c ∈ taken, c.isDigit = true)
    (first : taken ≠ []) (fits : taken.length ≤ most)
    (stops : taken.length = most ∨ ∀ c, rest.head? = some c → c.isDigit = false) :
    digits most (taken ++ rest) = some (digitsValue taken, rest) := by
  have whole : ((taken ++ rest).take most).takeWhile Char.isDigit = taken := by
    rw [List.take_append, List.take_of_length_le fits, List.takeWhile_append_of_pos each]
    rcases stops with full | stops
    · simp [full]
    · cases rest with
      | nil => simp
      | cons c rest =>
        cases room : most - taken.length with
        | zero => simp
        | succ room => simp [stops c rfl]
  simp [digits, whole, first]

theorem within_padded {low high value : Nat} (inside : low ≤ value ∧ value ≤ high)
    (two : value < 100) (rest : List Char) :
    within 2 low high ((padded 2 value).toList ++ rest) = some (value, rest) := by
  have length : (padded 2 value).toList.length = 2 := length_padded (by decide) two
  simp [within, dropBlanks_padded, digits_append (isDigit_padded 2 value) (padded_ne_nil 2 value)
    (Nat.le_of_eq length) (.inl length), digitsValue_padded, inside]

theorem year_unsigned {taken rest : List Char}
    (first : ∃ c others, taken = c :: others ∧ c.isDigit = true) :
    year (taken ++ rest) =
      (digits 4 (taken ++ rest)).map fun (value, rest) => ((value : Int), rest) := by
  obtain ⟨c, others, rfl, digit⟩ := first
  unfold year
  rw [List.cons_append, dropBlanks_cons (filled_of_digit digit)]
  split
  · rename_i same
    cases same
    simp at digit
  · rename_i same
    cases same
    simp at digit
  · rfl

theorem year_yearText (value : Int) (rest : List Char) :
    year ((yearText value).toList ++ '-' :: rest) = some (value, '-' :: rest) := by
  have read {most : Nat} (fits : (padded 4 value.natAbs).toList.length ≤ most) :
      digits most ((padded 4 value.natAbs).toList ++ '-' :: rest) =
        some (value.natAbs, '-' :: rest) := by
    rw [digits_append (isDigit_padded 4 _) (padded_ne_nil 4 _) fits
      (.inr fun c same => by cases same; rfl), digitsValue_padded]
  have fits : (padded 4 value.natAbs).toList.length ≤
      ((padded 4 value.natAbs).toList ++ '-' :: rest).length := by
    simp
  unfold yearText
  by_cases four : 0 ≤ value ∧ value ≤ 9999
  · have small : value.natAbs < 10 ^ 4 := by
      simp only [Nat.reducePow]
      omega
    have length : (padded 4 value.natAbs).toList.length = 4 := length_padded (by decide) small
    rw [if_pos four, year_unsigned (padded_first 4 _), read (Nat.le_of_eq length)]
    simp [four.1]
  · rw [if_neg four, String.toList_append, List.append_assoc]
    by_cases negative : value < 0
    · have sign : "-".toList = ['-'] := by simp
      rw [if_pos negative, sign, List.singleton_append]
      have back : -(value.natAbs : Int) = value := by omega
      simp only [year, dropBlanks_cons (c := '-') rfl, read fits, Option.map_some, back]
    · have sign : "+".toList = ['+'] := by simp
      rw [if_neg negative, sign, List.singleton_append]
      have back : (value.natAbs : Int) = value := by omega
      simp only [year, dropBlanks_cons (c := '+') rfl, read fits, Option.map_some, back]

theorem separator_cons {c : Char} (filled : Text.isBlank c = false) (rest : List Char) :
    separator c (c :: rest) = some rest := by
  simp [separator, dropBlanks_cons filled]

theorem fraction_padded {width value : Nat} (filled : 0 < width) (short : width ≤ 9)
    (small : value < 10 ^ width) :
    fraction ('.' :: ((padded width value).toList ++ ['Z'])) =
      some (value * 10 ^ (9 - width), ['Z']) := by
  have length := length_padded filled small
  have each := isDigit_padded width value
  have taken : (((padded width value).toList ++ ['Z']).take 9).takeWhile Char.isDigit =
      (padded width value).toList := by
    rw [List.take_append, List.take_of_length_le (by omega), List.takeWhile_append_of_pos each]
    cases 9 - (padded width value).toList.length <;> simp
  simp only [fraction, taken, List.isEmpty_iff, padded_ne_nil, if_false, digitsValue_padded, length,
    List.drop_left']
  simp

theorem fraction_fractionText (moment : Moment) :
    fraction ((fractionText moment).toList ++ ['Z']) =
      some (moment.nanos % 1000000000, ['Z']) := by
  have point : ".".toList = ['.'] := by simp
  unfold fractionText
  simp only
  split
  · rename_i zero
    rw [zero]
    rfl
  all_goals try split
  all_goals try split
  all_goals
    rw [String.toList_append, List.append_assoc, point, List.singleton_append,
      fraction_padded (by decide) (by decide) (by omega)]
    congr 2
    omega

end Reader

/-- A moment that a calendar and a clock show: its year can be read, and its fraction is one of a
whole second, or of the leap second after the last second of a minute. -/
structure Proper (moment : Moment) : Prop where
  first : firstYear ≤ moment.date.year
  last : moment.date.year ≤ lastYear
  fraction : moment.nanos < 1000000000 ∨ moment.nanos < 2000000000 ∧ moment.seconds % 60 = 59

instance (moment : Moment) : Decidable moment.Proper :=
  decidable_of_iff (firstYear ≤ moment.date.year ∧ moment.date.year ≤ lastYear ∧
      (moment.nanos < 1000000000 ∨ moment.nanos < 2000000000 ∧ moment.seconds % 60 = 59))
    ⟨fun ⟨first, last, fraction⟩ => ⟨first, last, fraction⟩,
      fun ⟨first, last, fraction⟩ => ⟨first, last, fraction⟩⟩

/-- The text of a moment is read back as the moment. -/
theorem parse_text {moment : Moment} (proper : moment.Proper) :
    parse moment.text = some moment := by
  obtain ⟨first, last, fraction⟩ := proper
  obtain ⟨⟨month, month'⟩, day, day'⟩ := date_real moment
  have days : daysInMonth moment.date.year moment.date.month ≤ 31 := by
    unfold daysInMonth
    split <;> (try split) <;> omega
  have seconds : (moment.secondOfDay : Int) = moment.seconds % 86400 := by
    simp only [secondOfDay]
    omega
  have text : moment.text.toList =
      (yearText moment.date.year).toList ++ '-' :: ((padded 2 moment.date.month).toList ++ '-' ::
        ((padded 2 moment.date.day).toList ++ 'T' ::
          ((padded 2 (moment.secondOfDay / 3600)).toList ++ ':' ::
            ((padded 2 (moment.secondOfDay / 60 % 60)).toList ++ ':' ::
              ((padded 2 (moment.secondOfDay % 60 + moment.nanos / 1000000000)).toList ++
                (moment.fractionText.toList ++ ['Z'])))))) := by
    simp [text, dateText, clockText, String.toList_append]
  rw [parse, text]
  refine Option.bind_eq_some_iff.mpr ⟨_, Reader.year_yearText _ _, ?_⟩
  refine Option.bind_eq_some_iff.mpr ⟨_, Reader.separator_cons rfl _, ?_⟩
  refine Option.bind_eq_some_iff.mpr
    ⟨_, Reader.within_padded ⟨month, month'⟩ (by omega) _, ?_⟩
  refine Option.bind_eq_some_iff.mpr ⟨_, Reader.separator_cons rfl _, ?_⟩
  refine Option.bind_eq_some_iff.mpr
    ⟨_, Reader.within_padded ⟨day, by omega⟩ (by omega) _, ?_⟩
  refine Option.bind_eq_some_iff.mpr ⟨_, rfl, ?_⟩
  refine Option.bind_eq_some_iff.mpr
    ⟨_, Reader.within_padded ⟨Nat.zero_le _, by omega⟩ (by omega) _, ?_⟩
  refine Option.bind_eq_some_iff.mpr ⟨_, Reader.separator_cons rfl _, ?_⟩
  refine Option.bind_eq_some_iff.mpr
    ⟨_, Reader.within_padded ⟨Nat.zero_le _, by omega⟩ (by omega) _, ?_⟩
  refine Option.bind_eq_some_iff.mpr ⟨_, Reader.separator_cons rfl _, ?_⟩
  refine Option.bind_eq_some_iff.mpr
    ⟨_, Reader.within_padded ⟨Nat.zero_le _, by omega⟩ (by omega) _, ?_⟩
  refine Option.bind_eq_some_iff.mpr ⟨_, Reader.fraction_fractionText moment, ?_⟩
  refine Option.bind_eq_some_iff.mpr ⟨(0, []), rfl, ?_⟩
  refine (if_pos ⟨rfl, first, last, day', by decide, by decide⟩).trans (congrArg some ?_)
  refine (Moment.mk.injEq _ _ moment.seconds moment.nanos).mpr ⟨?_, ?_⟩
  · rw [dayNumber_date]
    split <;> omega
  · split <;> omega

end Raid.Moment
