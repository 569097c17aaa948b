import Mathlib.Tactic.Ring
import Mathlib.Tactic.IntervalCases

namespace Shardman
namespace Foundation

/-!
# The proleptic Gregorian calendar

Dates are counted in days from 1970-01-01, in both directions and without a
bound on the year.  The day number of a date is the textbook count of whole
years, whole months and days.  The reverse conversion cuts 400-year, 100-year,
4-year and 1-year cycles off a day count that starts at 0001-01-01; leap years
then stand at the end of every cycle, so each cut is one division.
-/

/-- A calendar date.  Nothing here asks the month and day to be in range;
`Date.Valid` does. -/
@[ext] structure Date where
  year : Int
  month : Nat
  day : Nat
deriving DecidableEq, Repr

/-- The Gregorian leap rule. -/
def isLeap (year : Int) : Bool :=
  year % 4 == 0 && (year % 100 != 0 || year % 400 == 0)

/-- The days of the year before the first of a month. -/
def daysBefore (leap : Bool) (month : Nat) : Nat :=
  let extra := if leap then 1 else 0
  match month with
  | 0 | 1 => 0
  | 2 => 31
  | 3 => 59 + extra
  | 4 => 90 + extra
  | 5 => 120 + extra
  | 6 => 151 + extra
  | 7 => 181 + extra
  | 8 => 212 + extra
  | 9 => 243 + extra
  | 10 => 273 + extra
  | 11 => 304 + extra
  | 12 => 334 + extra
  | _ => 365 + extra

/-- The number of days of a month. -/
def daysIn (month : Nat) (year : Int) : Nat :=
  daysBefore (isLeap year) (month + 1) - daysBefore (isLeap year) month

/-- The days from 0001-01-01 to the first of January of a year. -/
def daysBeforeYear (year : Int) : Int :=
  365 * (year - 1) + (year - 1) / 4 - (year - 1) / 100 + (year - 1) / 400

namespace Date

/-- The month and the day exist in that year. -/
def Valid (date : Date) : Prop :=
  (1 <= date.month ∧ date.month <= 12) ∧
    (1 <= date.day ∧ date.day <= daysIn date.month date.year)

/-- Days since 1970-01-01. -/
def dayNumber (date : Date) : Int :=
  daysBeforeYear date.year + daysBefore (isLeap date.year) date.month + date.day - 1 - 719162

/-- Months since January of year 0. -/
def monthNumber (date : Date) : Int :=
  date.year * 12 + date.month - 1

end Date

/-! ## From a day number to a date -/

/-- The month that contains a day of the year, counted from zero. -/
def monthOfYearDay (leap : Bool) (yearDay : Nat) : Nat :=
  ((List.range 12).filter fun month => daysBefore leap (month + 1) <= yearDay).length

/-- The year that contains a day counted from 0001-01-01, and the day of that
year counted from zero. -/
def yearOfDay (day : Int) : Int × Nat :=
  let inCycle := day % 146097
  let centuries := inCycle / 36524 - inCycle / 36524 / 4
  let inCentury := inCycle - 36524 * centuries
  let fours := inCentury / 1461
  let inFours := inCentury - 1461 * fours
  let ones := inFours / 365 - inFours / 365 / 4
  (1 + 400 * (day / 146097) + 100 * centuries + 4 * fours + ones, (inFours - 365 * ones).toNat)

/-- The date of a day number. -/
def dateOfDay (day : Int) : Date :=
  let (year, yearDay) := yearOfDay (day + 719162)
  let month := monthOfYearDay (isLeap year) yearDay
  ⟨year, month, yearDay - daysBefore (isLeap year) month + 1⟩

/-- The days of a year. -/
def yearLength (leap : Bool) : Nat := if leap then 366 else 365

section Blocks

variable {cycles centuries fours ones : Int}

/-- The year that lies so many cycles, centuries, four-year blocks and years
after the year 1. -/
def blockYear (cycles centuries fours ones : Int) : Int :=
  1 + 400 * cycles + 100 * centuries + 4 * fours + ones

/-- The days before such a year. -/
theorem daysBeforeYear_blockYear (inCentury : 0 <= fours ∧ fours <= 24) (inFours : 0 <= ones ∧ ones <= 3)
    (inCycle : 0 <= centuries ∧ centuries <= 3) :
    daysBeforeYear (blockYear cycles centuries fours ones) =
      146097 * cycles + 36524 * centuries + 1461 * fours + 365 * ones := by
  unfold daysBeforeYear blockYear
  omega

/-- The last year of a four-year block is leap, except at the end of a century
that is not the last one of its cycle. -/
theorem isLeap_blockYear (inCentury : 0 <= fours ∧ fours <= 24) (inFours : 0 <= ones ∧ ones <= 3)
    (inCycle : 0 <= centuries ∧ centuries <= 3) :
    isLeap (blockYear cycles centuries fours ones) = decide (ones = 3 ∧ (fours < 24 ∨ centuries = 3)) := by
  apply Bool.eq_iff_iff.mpr
  simp only [isLeap, blockYear, Bool.and_eq_true, Bool.or_eq_true, beq_iff_eq, bne_iff_ne, decide_eq_true_eq]
  omega

end Blocks

/-- The cycle cuts find the year and leave a day inside it. -/
theorem yearOfDay_spec (day : Int) :
    daysBeforeYear (yearOfDay day).1 + ((yearOfDay day).2 : Int) = day ∧
      (yearOfDay day).2 < yearLength (isLeap (yearOfDay day).1) := by
  -- Naming each quotient keeps every division by a literal in its own equation.
  obtain ⟨cycles, cyclesEq⟩ : Exists fun cycles => cycles = day / 146097 := ⟨_, rfl⟩
  obtain ⟨inCycle, inCycleEq⟩ : Exists fun rest => rest = day % 146097 := ⟨_, rfl⟩
  obtain ⟨rough, roughEq⟩ : Exists fun rough => rough = inCycle / 36524 := ⟨_, rfl⟩
  obtain ⟨centuries, centuriesEq⟩ : Exists fun value => value = rough - rough / 4 := ⟨_, rfl⟩
  obtain ⟨inCentury, inCenturyEq⟩ : Exists fun rest => rest = inCycle - 36524 * centuries := ⟨_, rfl⟩
  obtain ⟨fours, foursEq⟩ : Exists fun fours => fours = inCentury / 1461 := ⟨_, rfl⟩
  obtain ⟨inFours, inFoursEq⟩ : Exists fun rest => rest = inCentury - 1461 * fours := ⟨_, rfl⟩
  obtain ⟨single, singleEq⟩ : Exists fun single => single = inFours / 365 := ⟨_, rfl⟩
  obtain ⟨ones, onesEq⟩ : Exists fun value => value = single - single / 4 := ⟨_, rfl⟩
  have found : yearOfDay day =
      (blockYear cycles centuries fours ones, (inFours - 365 * ones).toNat) := by
    simp only [yearOfDay, blockYear, onesEq, singleEq, inFoursEq, foursEq, inCenturyEq, centuriesEq, roughEq,
      inCycleEq, cyclesEq]
  have centuryBound : 0 <= centuries ∧ centuries <= 3 := by omega
  have inCenturyBound : 0 <= inCentury ∧ inCentury <= 36524 := by omega
  have foursBound : 0 <= fours ∧ fours <= 24 := by omega
  have inFoursBound : 0 <= inFours ∧ inFours <= 1460 := by omega
  have onesBound : 0 <= ones ∧ ones <= 3 := by omega
  rw [found]
  refine ⟨?_, ?_⟩
  · simp only [daysBeforeYear_blockYear foursBound onesBound centuryBound]
    omega
  · -- The last day of a four-year block exists exactly when its year is leap.
    simp only [isLeap_blockYear foursBound onesBound centuryBound]
    clear found
    by_cases leap : ones = 3 ∧ (fours < 24 ∨ centuries = 3)
    · simp only [leap, and_self, decide_true, yearLength, if_true]
      omega
    · simp only [leap, decide_false, yearLength, Bool.false_eq_true, if_false]
      have shortCentury : centuries < 3 -> inCentury <= 36523 := by omega
      rcases Int.lt_or_le ones 3 with early | last
      · omega
      · have block : fours = 24 ∧ centuries < 3 := by omega
        have short := shortCentury block.2
        omega

theorem daysBefore_mono (leap : Bool) {first second : Nat} (ordered : first <= second) :
    daysBefore leap first <= daysBefore leap second := by
  have bounded : forall leap : Bool, forall first : Fin 14, forall second : Fin 14,
      first <= second -> daysBefore leap first <= daysBefore leap second := by decide +kernel
  have late : forall month, 13 <= month -> daysBefore leap month = daysBefore leap 13 := by
    intro month large
    match month, large with
    | month + 13, _ => rfl
  rcases Nat.lt_or_ge second 13 with small | large
  · exact bounded leap ⟨first, by omega⟩ ⟨second, by omega⟩ ordered
  · rw [late second large]
    rcases Nat.lt_or_ge first 13 with small | alsoLarge
    · exact bounded leap ⟨first, by omega⟩ ⟨13, by decide⟩ (Fin.mk_le_mk.mpr (by omega))
    · rw [late first alsoLarge]

/-- Something that starts at or below a level and ends above it crosses the level
in one step. -/
theorem exists_crossing {height : Nat -> Nat} {level low high : Nat} (ordered : low <= high)
    (starts : height low <= level) (ends : level < height high) :
    Exists fun step => low <= step ∧ step < high ∧ height step <= level ∧ level < height (step + 1) := by
  induction high, ordered using Nat.le_induction with
  | base => omega
  | succ high ordered inductionHypothesis =>
      by_cases reached : height high <= level
      · exact ⟨high, ordered, Nat.lt_succ_self high, reached, ends⟩
      · rcases inductionHypothesis (Nat.lt_of_not_le reached) with ⟨step, above, below, crossed⟩
        exact ⟨step, above, Nat.lt_succ_of_lt below, crossed⟩

/-- How many numbers below a bound pass a test that is passed up to some number
and not from there on. -/
theorem length_filter_range {passes : Nat -> Bool} {count bound : Nat} (inside : count <= bound)
    (below : forall number, number < count -> passes number = true)
    (above : forall number, count <= number -> passes number = false) :
    ((List.range bound).filter passes).length = count := by
  rcases Nat.exists_eq_add_of_le inside with ⟨rest, rfl⟩
  have first : (List.range count).filter passes = List.range count :=
    List.filter_eq_self.mpr fun number member => below number (List.mem_range.mp member)
  have second : ((List.range rest).map (count + ·)).filter passes = [] := by
    apply List.filter_eq_nil_iff.mpr
    intro number member
    rcases List.mem_map.mp member with ⟨offset, _, rfl⟩
    rw [above _ (Nat.le_add_right count offset)]
    exact Bool.false_ne_true
  rw [List.range_add, List.filter_append, first, second, List.append_nil, List.length_range]

/-- Inside a year, the month search returns the month that contains the day. -/
theorem monthOfYearDay_spec (leap : Bool) (yearDay : Nat) (inside : yearDay < yearLength leap) :
    (1 <= monthOfYearDay leap yearDay ∧ monthOfYearDay leap yearDay <= 12) ∧
      daysBefore leap (monthOfYearDay leap yearDay) <= yearDay ∧
      yearDay < daysBefore leap (monthOfYearDay leap yearDay + 1) := by
  have whole : daysBefore leap 13 = yearLength leap := by cases leap <;> rfl
  rcases exists_crossing (show 1 <= 13 by decide)
    (Nat.zero_le yearDay : daysBefore leap 1 <= yearDay) (whole ▸ inside) with
    ⟨month, first, last, begun, before⟩
  have found : monthOfYearDay leap yearDay = month := by
    refine length_filter_range (Nat.le_of_lt_succ last) ?_ ?_
    · intro earlier smaller
      exact decide_eq_true (Nat.le_trans (daysBefore_mono leap smaller) begun)
    · intro later larger
      have past : daysBefore leap (month + 1) <= daysBefore leap (later + 1) :=
        daysBefore_mono leap (Nat.succ_le_succ larger)
      exact decide_eq_false (by omega)
  rw [found]
  exact ⟨⟨first, Nat.le_of_lt_succ last⟩, begun, before⟩

/-- Every day number has a valid date. -/
theorem dateOfDay_valid (day : Int) : (dateOfDay day).Valid := by
  have year := yearOfDay_spec (day + 719162)
  have month := monthOfYearDay_spec _ _ year.2
  refine ⟨month.1, ?_, ?_⟩
  · exact Nat.le_add_left _ _
  · simp only [dateOfDay, daysIn]
    omega

/-- The date of a day number has that day number. -/
theorem dayNumber_dateOfDay (day : Int) : (dateOfDay day).dayNumber = day := by
  have year := yearOfDay_spec (day + 719162)
  have month := monthOfYearDay_spec _ _ year.2
  simp only [dateOfDay, Date.dayNumber]
  omega

/-! ## Months follow the order of days -/

/-- A later year starts at least one whole year later. -/
theorem daysBeforeYear_lt {first second : Int} (earlier : first < second) :
    daysBeforeYear first + yearLength (isLeap first) <= daysBeforeYear second := by
  have next : daysBeforeYear first + yearLength (isLeap first) = daysBeforeYear (first + 1) := by
    cases leap : isLeap first with
    | true =>
        simp only [isLeap, Bool.and_eq_true, Bool.or_eq_true, beq_iff_eq, bne_iff_ne] at leap
        simp only [daysBeforeYear, yearLength, if_true]
        omega
    | false =>
        have notLeap : ¬ (first % 4 = 0 ∧ (first % 100 ≠ 0 ∨ first % 400 = 0)) := by
          intro rule
          have isTrue : isLeap first = true := by
            simpa only [isLeap, Bool.and_eq_true, Bool.or_eq_true, beq_iff_eq, bne_iff_ne] using rule
          rw [leap] at isTrue
          cases isTrue
        simp only [daysBeforeYear, yearLength, Bool.false_eq_true, if_false]
        omega
  rw [next]
  simp only [daysBeforeYear]
  omega

theorem daysIn_le {month : Nat} (inside : month <= 12) (year : Int) : daysIn month year <= 31 := by
  have months : forall leap : Bool, forall month : Fin 13,
      daysBefore leap (month + 1) - daysBefore leap month <= 31 := by decide +kernel
  exact months (isLeap year) ⟨month, by omega⟩

theorem daysIn_pos {month : Nat} (inside : 1 <= month ∧ month <= 12) (year : Int) : 1 <= daysIn month year := by
  have months : forall leap : Bool, forall month : Fin 13, 1 <= month.val ->
      1 <= daysBefore leap (month + 1) - daysBefore leap month := by decide +kernel
  exact months (isLeap year) ⟨month, by omega⟩ inside.1

/-- A valid date lies before the first of the next month. -/
theorem Date.Valid.inMonth {date : Date} (valid : date.Valid) :
    daysBefore (isLeap date.year) date.month + date.day <=
      daysBefore (isLeap date.year) (date.month + 1) := by
  have day : date.day <= daysIn date.month date.year := valid.2.2
  have starts := daysBefore_mono (isLeap date.year) (show date.month <= date.month + 1 by omega)
  simp only [daysIn] at day
  omega

/-- A valid date lies inside its year. -/
theorem Date.Valid.inYear {date : Date} (valid : date.Valid) :
    daysBefore (isLeap date.year) (date.month + 1) <= yearLength (isLeap date.year) := by
  have months := valid.1
  have last := daysBefore_mono (isLeap date.year) (show date.month + 1 <= 13 by omega)
  cases leap : isLeap date.year <;> simp only [leap, daysBefore, yearLength] at last ⊢ <;> exact last

/-- Of two valid dates the one in the later month has the later day number. -/
theorem dayNumber_lt_of_monthNumber_lt {first second : Date} (firstValid : first.Valid)
    (secondValid : second.Valid) (earlier : first.monthNumber < second.monthNumber) :
    first.dayNumber < second.dayNumber := by
  have firstMonths := firstValid.1
  have secondMonths := secondValid.1
  have firstDay := firstValid.inMonth
  have secondDay := secondValid.2.1
  have whole := firstValid.inYear
  simp only [Date.monthNumber] at earlier
  simp only [Date.dayNumber]
  rcases lt_trichotomy first.year second.year with before | same | after
  · have years := daysBeforeYear_lt before
    omega
  · rw [← same] at earlier ⊢
    have months := daysBefore_mono (isLeap first.year) (show first.month + 1 <= second.month by omega)
    omega
  · omega

/-- The month of a later day is not earlier. -/
theorem monthNumber_dateOfDay_mono {first second : Int} (ordered : first <= second) :
    (dateOfDay first).monthNumber <= (dateOfDay second).monthNumber := by
  by_contra backwards
  have days := dayNumber_lt_of_monthNumber_lt (dateOfDay_valid second) (dateOfDay_valid first)
    (not_le.mp backwards)
  rw [dayNumber_dateOfDay, dayNumber_dateOfDay] at days
  omega

/-- The order of the fields of valid dates is the order of their day numbers. -/
theorem dayNumber_lt_iff {first second : Date} (firstValid : first.Valid) (secondValid : second.Valid) :
    first.dayNumber < second.dayNumber ↔
      first.monthNumber < second.monthNumber ∨
        (first.monthNumber = second.monthNumber ∧ first.day < second.day) := by
  rcases lt_trichotomy first.monthNumber second.monthNumber with before | same | after
  · exact iff_of_true (dayNumber_lt_of_monthNumber_lt firstValid secondValid before) (Or.inl before)
  · have months : first.year = second.year ∧ first.month = second.month := by
      have firstMonth := firstValid.1
      have secondMonth := secondValid.1
      simp only [Date.monthNumber] at same
      omega
    simp only [same, lt_irrefl, false_or, true_and, Date.dayNumber, months.1, months.2]
    omega
  · have days := dayNumber_lt_of_monthNumber_lt secondValid firstValid after
    constructor <;> intro earlier <;> omega

/-- A valid date is the date of its day number. -/
theorem dateOfDay_dayNumber {date : Date} (valid : date.Valid) : dateOfDay date.dayNumber = date := by
  have found := dateOfDay_valid date.dayNumber
  have number := dayNumber_dateOfDay date.dayNumber
  have notBefore := mt (dayNumber_lt_iff found valid).mpr (by omega)
  have notAfter := mt (dayNumber_lt_iff valid found).mpr (by omega)
  have foundMonth := found.1
  have dateMonth := valid.1
  cases same : dateOfDay date.dayNumber with
  | mk year month day =>
      cases date with
      | mk dateYear dateMonth dateDay =>
          rw [same] at notBefore notAfter foundMonth
          simp only [Date.monthNumber] at notBefore notAfter foundMonth dateMonth
          rw [Date.mk.injEq]
          omega

end Foundation
end Shardman
