import GenModel.Proofs.Run.Places
import GenModel.Proofs.Text.FixedWidth

/-!
# The order of times and of their stamps

Later days have later dates. Each step of the conversion from the number of a day takes off as many
whole periods as possible, so a later day has more of them, or equally many and a later day in what
remains (`cut_lt`). The months of a year that begins with March are found in the same way, and
moving the beginning of the year to January keeps the order.

A stamp shows year, month, day, hour, minute and second, and a leap second as the second 60. From
these the second of the instant is known, since different seconds have different dates or times of
day: the stamps of two instants are equal exactly if the instants lie in the same second. The
numbers have a fixed width except for the year, which has a sign if it does not fit four digits. So
the stamps are ordered like the times within the years 0 to 9999 (`directoryStamp_identifies`).
-/

namespace GenModel

namespace Date

/-- The first date is earlier in the calendar. -/
def Precedes (first second : Date) : Prop :=
  first.year < second.year ∨ first.year = second.year ∧
    (first.month < second.month ∨ first.month = second.month ∧ first.day < second.day)

/-- The year of a day in the cycle of 400 years, counted from March to March. -/
def yearOfCycle (dayOfCycle : Nat) : Nat :=
  let century := min (dayOfCycle / 36524) 3
  let dayOfCentury := dayOfCycle - century * 36524
  century * 100 + dayOfCentury / 1461 * 4 + min (dayOfCentury % 1461 / 365) 3

/-- The day in its year, counted from the first of March. -/
def dayOfYear (dayOfCycle : Nat) : Nat :=
  let dayOfCentury := dayOfCycle - min (dayOfCycle / 36524) 3 * 36524
  dayOfCentury % 1461 - min (dayOfCentury % 1461 / 365) 3 * 365

/-- The date of a day in a year that begins with March. -/
def ofMarch (year : Int) (dayOfYear : Nat) : Date :=
  let monthFromMarch := (5 * dayOfYear + 2) / 153
  {
    year := if monthFromMarch < 10 then year else year + 1
    month := if monthFromMarch < 10 then monthFromMarch + 3 else monthFromMarch - 9
    day := dayOfYear - (153 * monthFromMarch + 2) / 5 + 1
  }

theorem ofDayNumber_eq (dayNumber : Int) :
    ofDayNumber dayNumber =
      ofMarch ((dayNumber + epoch) / 146097 * 400 +
          (yearOfCycle ((dayNumber + epoch) % 146097).toNat : Nat))
        (dayOfYear ((dayNumber + epoch) % 146097).toNat) :=
  rfl

section Cycles

variable {first second size last : Nat}

/-- When whole periods are taken off, but not more than a last number of them, then of a later day
more are taken off, or equally many and a later day remains. -/
theorem cut_lt (earlier : first < second) :
    min (first / size) last < min (second / size) last ∨
      min (first / size) last = min (second / size) last ∧
        first - min (first / size) last * size < second - min (second / size) last * size := by
  have quotients : first / size ≤ second / size := Nat.div_le_div_right (Nat.le_of_lt earlier)
  have periods : min (first / size) last ≤ min (second / size) last := by
    omega
  rcases Nat.lt_or_eq_of_le periods with less | equal
  · exact Or.inl less
  · right
    refine ⟨equal, ?_⟩
    have contained : min (first / size) last * size ≤ first := by
      apply Nat.le_trans (Nat.mul_le_mul_right size (Nat.min_le_left _ _))
      exact Nat.div_mul_le_self first size
    rw [← equal]
    omega

theorem yearOfCycle_le (inCycle : first < 146097) : yearOfCycle first ≤ 399 := by
  simp only [yearOfCycle]
  omega

theorem dayOfYear_le (first : Nat) : dayOfYear first ≤ 365 := by
  simp only [dayOfYear]
  omega

theorem yearOfCycle_lt_or (earlier : first < second) (inCycle : second < 146097) :
    yearOfCycle first < yearOfCycle second ∨
      yearOfCycle first = yearOfCycle second ∧ dayOfYear first < dayOfYear second := by
  simp only [yearOfCycle, dayOfYear]
  -- Centuries, cycles of four years and years are compared one after the other.
  rcases @cut_lt first second 36524 3 earlier with lessCentury | ⟨sameCentury, earlierInCentury⟩
  · left
    omega
  · rw [← sameCentury] at earlierInCentury ⊢
    generalize min (first / 36524) 3 = century at earlierInCentury sameCentury ⊢
    generalize first - century * 36524 = firstDay at earlierInCentury ⊢
    generalize second - century * 36524 = secondDay at earlierInCentury ⊢
    have leapCycles : firstDay / 1461 < secondDay / 1461 ∨
        firstDay / 1461 = secondDay / 1461 ∧ firstDay % 1461 < secondDay % 1461 := by
      omega
    rcases leapCycles with lessCycle | ⟨sameCycle, earlierInCycle⟩
    · left
      omega
    · rcases @cut_lt _ _ 365 3 earlierInCycle with lessYear | ⟨sameYear, earlierInYear⟩
      · left
        omega
      · right
        exact ⟨by omega, earlierInYear⟩

end Cycles

theorem ofMarch_precedes {firstYear secondYear : Int} {firstDay secondDay : Nat}
    (firstBound : firstDay ≤ 365) (secondBound : secondDay ≤ 365)
    (earlier : firstYear < secondYear ∨ firstYear = secondYear ∧ firstDay < secondDay) :
    Precedes (ofMarch firstYear firstDay) (ofMarch secondYear secondDay) := by
  simp only [Precedes, ofMarch]
  -- January and February belong to the year after the one that began with March, so a year can be
  -- the same for days of two such years: then the earlier day is in one of these two months.
  rcases earlier with lessYear | ⟨rfl, lessDay⟩
  · split_ifs <;> omega
  · split_ifs <;> omega

theorem ofMarch_bounds (year : Int) {day : Nat} (bound : day ≤ 365) :
    (ofMarch year day).month ≤ 12 ∧ (ofMarch year day).day ≤ 31 := by
  simp only [ofMarch]
  constructor
  · split_ifs <;> omega
  · omega

/-- A later day has a later date. -/
theorem ofDayNumber_precedes {first second : Int} (earlier : first < second) :
    Precedes (ofDayNumber first) (ofDayNumber second) := by
  rw [ofDayNumber_eq, ofDayNumber_eq]
  apply ofMarch_precedes (dayOfYear_le _) (dayOfYear_le _)
  have firstYear : yearOfCycle ((first + epoch) % 146097).toNat ≤ 399 :=
    yearOfCycle_le (by omega)
  have secondInCycle : ((second + epoch) % 146097).toNat < 146097 := by
    omega
  by_cases lessCycle : (first + epoch) / 146097 < (second + epoch) / 146097
  · left
    omega
  · have sameCycle : (first + epoch) / 146097 = (second + epoch) / 146097 := by
      omega
    have earlierInCycle :
        ((first + epoch) % 146097).toNat < ((second + epoch) % 146097).toNat := by
      omega
    rcases yearOfCycle_lt_or earlierInCycle secondInCycle with lessYear | ⟨sameYear, lessDay⟩
    · left
      omega
    · right
      exact ⟨by omega, lessDay⟩

theorem ofDayNumber_bounds (dayNumber : Int) :
    (ofDayNumber dayNumber).month ≤ 12 ∧ (ofDayNumber dayNumber).day ≤ 31 := by
  rw [ofDayNumber_eq]
  exact ofMarch_bounds _ (dayOfYear_le _)

theorem yearText_of_fourDigits {year : Int} (notNegative : 0 ≤ year) (atMost : year ≤ 9999) :
    yearText year = Text.paddedDecimal 4 year.natAbs := by
  rw [yearText, if_neg (Int.not_lt.mpr notNegative), if_pos atMost]

section Years

variable {year other : Int}

theorem filter_yearText (year : Int) :
    (yearText year).toList.filter Char.isDigit = (Text.paddedDecimal 4 year.natAbs).toList := by
  have kept : (Text.paddedDecimal 4 year.natAbs).toList.filter Char.isDigit =
      (Text.paddedDecimal 4 year.natAbs).toList := by
    rw [List.filter_eq_self]
    intro c mem
    exact Text.isDigit_of_mem_paddedDecimal mem
  have noDigit : "-".toList.filter Char.isDigit = [] ∧ "+".toList.filter Char.isDigit = [] := by
    decide
  rw [yearText]
  split_ifs
  · rw [String.toList_append, List.filter_append, kept, noDigit.1, List.nil_append]
  · exact kept
  · rw [String.toList_append, List.filter_append, kept, noDigit.2, List.nil_append]

theorem minus_mem_yearText_iff : '-' ∈ (yearText year).toList ↔ year < 0 := by
  have noMinus : '-' ∉ (Text.paddedDecimal 4 year.natAbs).toList :=
    Text.notMem_paddedDecimal (by decide)
  rw [yearText]
  split_ifs with negative
  · simp [negative]
  · simp [negative, noMinus]
  · simp [negative, noMinus]

theorem yearText_inj (same : yearText year = yearText other) : year = other := by
  have sameSign : year < 0 ↔ other < 0 := by
    rw [← minus_mem_yearText_iff, same, minus_mem_yearText_iff]
  have sameDigits : Text.paddedDecimal 4 year.natAbs = Text.paddedDecimal 4 other.natAbs := by
    apply String.toList_injective
    rw [← filter_yearText, same, filter_yearText]
  have sameDistance := Text.paddedDecimal_inj sameDigits
  omega

theorem colon_notMem_yearText : ':' ∉ (yearText year).toList := by
  have noColon : ':' ∉ (Text.paddedDecimal 4 year.natAbs).toList :=
    Text.notMem_paddedDecimal (by decide)
  rw [yearText]
  split_ifs <;> simp [noColon]

end Years

end Date

namespace Instant

/-- The second of the first instant is earlier: a leap second comes after the second that has the
same number. -/
def Precedes (first second : Instant) : Prop :=
  first.seconds < second.seconds ∨ first.seconds = second.seconds ∧
    first.nanoseconds < 1000000000 ∧ 1000000000 ≤ second.nanoseconds

/-- The instants lie in the same second. -/
def SameSecond (first second : Instant) : Prop :=
  first.seconds = second.seconds ∧
    (1000000000 ≤ first.nanoseconds ↔ 1000000000 ≤ second.nanoseconds)

/-- The numbers that a stamp shows after the year. -/
def numbers (instant : Instant) : List Nat :=
  [instant.date.month, instant.date.day, instant.secondOfDay / 3600, instant.secondOfDay / 60 % 60,
    instant.secondOfMinute]

/-- Where these numbers stand, with the given mark in the time of day. -/
def slots (mark : String) : List (String × Nat) :=
  [("-", 2), ("-", 2), ("T", 2), (mark, 2), (mark, 2)]

section Order

variable {first second : Instant}

theorem precedes_trichotomy (first second : Instant) :
    Precedes first second ∨ SameSecond first second ∨ Precedes second first := by
  simp only [Precedes, SameSecond]
  omega

theorem Precedes.timeOfDay (earlier : Precedes first second)
    (sameDay : first.seconds / 86400 = second.seconds / 86400) :
    first.secondOfDay / 3600 < second.secondOfDay / 3600 ∨
      first.secondOfDay / 3600 = second.secondOfDay / 3600 ∧
        (first.secondOfDay / 60 % 60 < second.secondOfDay / 60 % 60 ∨
          first.secondOfDay / 60 % 60 = second.secondOfDay / 60 % 60 ∧
            first.secondOfMinute < second.secondOfMinute) := by
  have firstLeap := first.withinSecond
  have secondLeap := second.withinSecond
  simp only [Precedes] at earlier
  -- A leap second follows the last second of a minute, so it comes before the next minute.
  simp only [secondOfMinute, secondOfDay, isLeapSecond, decide_eq_true_eq]
  split_ifs <;> omega

theorem Precedes.numbers_lt (earlier : Precedes first second) :
    first.date.year < second.date.year ∨
      first.date.year = second.date.year ∧ first.numbers < second.numbers := by
  by_cases lessDay : first.seconds / 86400 < second.seconds / 86400
  · rcases Date.ofDayNumber_precedes lessDay with lessYear | ⟨sameYear, lessInYear⟩
    · exact Or.inl lessYear
    · right
      refine ⟨sameYear, ?_⟩
      simp only [numbers, List.cons_lt_cons_iff]
      rcases lessInYear with lessMonth | ⟨sameMonth, lessDayOfMonth⟩
      · exact Or.inl lessMonth
      · exact Or.inr ⟨sameMonth, Or.inl lessDayOfMonth⟩
  · have sameDay : first.seconds / 86400 = second.seconds / 86400 := by
      simp only [Precedes] at earlier
      omega
    have sameDate : first.date = second.date := by
      rw [date, date, sameDay]
    right
    rw [sameDate]
    refine ⟨rfl, ?_⟩
    simp only [numbers, List.cons_lt_cons_iff, sameDate, true_and]
    right
    right
    rcases earlier.timeOfDay sameDay with lessHour | ⟨sameHour, lessMinute | ⟨sameMinute, less⟩⟩
    · exact Or.inl lessHour
    · exact Or.inr ⟨sameHour, Or.inl lessMinute⟩
    · exact Or.inr ⟨sameHour, Or.inr ⟨sameMinute, Or.inl less⟩⟩

theorem sameSecond_of_numbers_eq (sameYear : first.date.year = second.date.year)
    (sameNumbers : first.numbers = second.numbers) : SameSecond first second := by
  have notEarlier {one other : Instant} (yearEq : one.date.year = other.date.year)
      (numbersEq : one.numbers = other.numbers) : ¬Precedes one other := by
    intro earlier
    rcases earlier.numbers_lt with lessYear | ⟨-, lessNumbers⟩
    · omega
    · rw [numbersEq] at lessNumbers
      exact absurd lessNumbers (List.lt_irrefl _)
  rcases precedes_trichotomy first second with earlier | same | later
  · exact absurd earlier (notEarlier sameYear sameNumbers)
  · exact same
  · exact absurd later (notEarlier sameYear.symm sameNumbers.symm)

theorem SameSecond.timestamp_eq (same : SameSecond first second) :
    first.timestamp = second.timestamp := by
  have sameLeap : first.isLeapSecond = second.isLeapSecond := by
    rw [isLeapSecond, isLeapSecond, decide_eq_decide]
    exact same.2
  simp only [timestamp, date, secondOfMinute, secondOfDay, same.1, sameLeap]

end Order

section Stamps

variable (instant : Instant)

theorem fitsSlots_numbers (mark : String) : Text.FitsSlots (slots mark) instant.numbers := by
  have dateBounds := Date.ofDayNumber_bounds (instant.seconds / 86400)
  have minuteBound : instant.secondOfMinute ≤ 60 := by
    rw [secondOfMinute]
    split_ifs <;> omega
  have dayBound : instant.secondOfDay < 86400 := by
    rw [secondOfDay]
    omega
  rw [← date] at dateBounds
  have fits {slotMark : String} {number : Nat} (small : number < 100) :
      0 < (slotMark, 2).2 ∧ number < 10 ^ (slotMark, 2).2 :=
    ⟨Nat.zero_lt_two, small⟩
  refine .cons (fits ?_) (.cons (fits ?_) (.cons (fits ?_) (.cons (fits ?_) ?_)))
  · omega
  · omega
  · omega
  · omega
  · exact .cons (fits (by omega)) .nil

theorem timestamp_eq_written :
    instant.timestamp =
      Date.yearText instant.date.year ++ Text.written "Z" (slots ":") instant.numbers := by
  simp only [timestamp, Date.text, Text.written, slots, numbers, String.append_assoc]

theorem map_hyphen_of_free {text : List Char} (free : ':' ∉ text) :
    text.map (fun c => if c = ':' then '-' else c) = text := by
  conv_rhs => rw [← List.map_id text]
  apply List.map_congr_left
  intro c mem
  apply if_neg
  rintro rfl
  exact free mem

theorem directoryStamp_eq_written :
    instant.directoryStamp =
      Date.yearText instant.date.year ++ Text.written "Z" (slots "-") instant.numbers := by
  have digits (number : Nat) :
      (Text.paddedDecimal 2 number).toList.map (fun c => if c = ':' then '-' else c) =
        (Text.paddedDecimal 2 number).toList :=
    map_hyphen_of_free (Text.notMem_paddedDecimal (by decide))
  apply String.toList_injective
  rw [directoryStamp, timestamp_eq_written]
  simp only [Text.written, slots, numbers, String.toList_append, String.toList_ofList,
    List.map_append, map_hyphen_of_free Date.colon_notMem_yearText, digits]
  rfl

theorem directoryStamp_of_fourDigits (notNegative : 0 ≤ instant.date.year)
    (atMost : instant.date.year ≤ 9999) :
    instant.directoryStamp =
        Text.written "Z" (("", 4) :: slots "-") (instant.date.year.natAbs :: instant.numbers) ∧
      Text.FitsSlots (("", 4) :: slots "-") (instant.date.year.natAbs :: instant.numbers) := by
  constructor
  · rw [directoryStamp_eq_written, Date.yearText_of_fourDigits notNegative atMost, Text.written,
      String.empty_append]
  · refine .cons ⟨by decide, ?_⟩ (instant.fitsSlots_numbers "-")
    change instant.date.year.natAbs < 10000
    omega

theorem colon_notMem_directoryStamp : ':' ∉ instant.directoryStamp.toList := by
  rw [directoryStamp, String.toList_ofList, List.mem_map]
  rintro ⟨c, -, colon⟩
  split_ifs at colon with isColon
  · exact absurd colon (by decide)
  · exact isColon colon

theorem nul_notMem_directoryStamp : '\x00' ∉ instant.directoryStamp.toList := by
  rw [directoryStamp, String.toList_ofList, List.mem_map]
  rintro ⟨c, mem, nul⟩
  split_ifs at nul
  · exact absurd nul (by decide)
  · subst c
    exact absurd (isStampText_timestamp instant _ mem) (by decide)

variable {instant} {first second : Instant}

theorem sameSecond_of_directoryStamp_eq (same : first.directoryStamp = second.directoryStamp) :
    SameSecond first second := by
  have firstFits := first.fitsSlots_numbers "-"
  have secondFits := second.fitsSlots_numbers "-"
  rw [directoryStamp_eq_written, directoryStamp_eq_written, ← String.toList_inj,
    String.toList_append, String.toList_append] at same
  rcases List.append_inj' same (Text.length_written firstFits secondFits) with ⟨yearEq, restEq⟩
  apply sameSecond_of_numbers_eq
  · exact Date.yearText_inj (String.toList_injective yearEq)
  · exact Text.written_inj firstFits secondFits (String.toList_injective restEq)

theorem Precedes.directoryStamp_lt (earlier : Precedes first second)
    (firstYear : 0 ≤ first.date.year ∧ first.date.year ≤ 9999)
    (secondYear : 0 ≤ second.date.year ∧ second.date.year ≤ 9999) :
    first.directoryStamp < second.directoryStamp := by
  rcases first.directoryStamp_of_fourDigits firstYear.1 firstYear.2 with ⟨firstEq, firstFits⟩
  rcases second.directoryStamp_of_fourDigits secondYear.1 secondYear.2 with ⟨secondEq, secondFits⟩
  rw [String.lt_iff, firstEq, secondEq, Text.written_lt_iff firstFits secondFits,
    List.cons_lt_cons_iff]
  rcases earlier.numbers_lt with lessYear | ⟨sameYear, lessNumbers⟩
  · left
    omega
  · right
    exact ⟨by omega, lessNumbers⟩

end Stamps

/-- The stamp of an instant stands for its second: equal stamps, equal timestamps and the same
second are one thing, and in the years 0 to 9999 stamps are ordered like the seconds. A stamp is a
plain name, in which there is neither a colon nor a NUL. -/
theorem directoryStamp_identifies (first second : Instant) :
    (first.directoryStamp = second.directoryStamp ↔ first.timestamp = second.timestamp) ∧
    (first.timestamp = second.timestamp ↔
      first.seconds = second.seconds ∧
        (1000000000 ≤ first.nanoseconds ↔ 1000000000 ≤ second.nanoseconds)) ∧
    (Path.IsName first.directoryStamp ∧ ':' ∉ first.directoryStamp.toList ∧
      '\x00' ∉ first.directoryStamp.toList) ∧
    (0 ≤ first.date.year ∧ first.date.year ≤ 9999 →
      0 ≤ second.date.year ∧ second.date.year ≤ 9999 →
      (first.directoryStamp < second.directoryStamp ↔
        first.seconds < second.seconds ∨ first.seconds = second.seconds ∧
          first.nanoseconds < 1000000000 ∧ 1000000000 ≤ second.nanoseconds)) := by
  have stampOfTimestamp (same : first.timestamp = second.timestamp) :
      first.directoryStamp = second.directoryStamp := by
    rw [directoryStamp, directoryStamp, same]
  refine ⟨⟨?_, stampOfTimestamp⟩, ⟨?_, ?_⟩, ?_, ?_⟩
  · intro same
    exact (sameSecond_of_directoryStamp_eq same).timestamp_eq
  · intro same
    exact sameSecond_of_directoryStamp_eq (stampOfTimestamp same)
  · exact SameSecond.timestamp_eq
  · exact ⟨first.isName_directoryStamp, first.colon_notMem_directoryStamp,
      first.nul_notMem_directoryStamp⟩
  · intro firstYear secondYear
    constructor
    · intro less
      rcases precedes_trichotomy first second with earlier | same | later
      · exact earlier
      · rw [stampOfTimestamp same.timestamp_eq, String.lt_iff] at less
        exact absurd less (List.lt_irrefl _)
      · have greater := later.directoryStamp_lt secondYear firstYear
        rw [String.lt_iff] at less greater
        exact absurd less (List.lt_asymm greater)
    · intro earlier
      exact Precedes.directoryStamp_lt earlier firstYear secondYear

/-- The leap second at the end of the year 2016. -/
def leapSecond : Instant :=
  ⟨1483228799, 1500000000, by decide, by decide, by decide⟩

/-- The second after the leap second. -/
def afterLeapSecond : Instant :=
  ⟨1483228800, 0, by decide, by decide, by decide⟩

theorem directoryStamp_identifies_leapSecond :
    leapSecond.directoryStamp = "2016-12-31T23-59-60Z" ∧
      (0 ≤ leapSecond.date.year ∧ leapSecond.date.year ≤ 9999) ∧
      (0 ≤ afterLeapSecond.date.year ∧ afterLeapSecond.date.year ≤ 9999) ∧
      leapSecond.directoryStamp < afterLeapSecond.directoryStamp := by
  have firstYear : 0 ≤ leapSecond.date.year ∧ leapSecond.date.year ≤ 9999 := by
    decide
  have secondYear : 0 ≤ afterLeapSecond.date.year ∧ afterLeapSecond.date.year ≤ 9999 := by
    decide
  refine ⟨by decide +kernel, firstYear, secondYear, ?_⟩
  apply ((directoryStamp_identifies _ _).2.2.2 firstYear secondYear).mpr
  decide

end Instant

end GenModel
