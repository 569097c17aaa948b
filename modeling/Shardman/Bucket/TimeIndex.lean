import Shardman.Bucket.Routing

namespace Shardman
namespace Bucket

open Foundation
open Foundation.Binary64

/-!
# Names and indices of time buckets

Retention and the future window do arithmetic on bucket indices.  An index is
computed from a bucket name, in a different way for each unit, and a name can
be computed back from an index.  This module compares the indices with the
calendar itself: the fields of the date, and of the hour, that make up a unit.
In the years 0..9999 the indices have the order and the density of the calendar
units, and names and indices determine each other.
-/

/-- A number padded with zeros, where a sign takes one of the places. -/
def zeroPadded (width : Nat) (value : Int) : List Char :=
  if value < 0 then '-' :: Decimal.padded (width - 1) value.natAbs else Decimal.padded width value.natAbs

def TimeUnit.idFromIndex : TimeUnit -> Int -> String
  | .hour, index => timeID .hour (unixTime (wrap64 (index * 3600)))
  | .day, index => timeID .day (unixTime (wrap64 (index * 86400)))
  | .month, index =>
      String.ofList (zeroPadded 4 (index.tdiv 12) ++ '-' :: zeroPadded 2 (index.tmod 12 + 1))

/-- The bucket name of an index on the time axis. -/
def Spec.idFromIndex (spec : Spec) (index : Int) : Option String :=
  match spec with
  | .time unit => some (unit.idFromIndex index)
  | _ => none

/-! ## Calendar units -/

/-- The calendar fields that make up the unit of an instant, the largest first. -/
def TimeUnit.fields : TimeUnit -> Int -> List Int
  | .hour, instant =>
      [(TimeLayout.dateOf instant).year, (TimeLayout.dateOf instant).month,
        (TimeLayout.dateOf instant).day, TimeLayout.unixSeconds instant % 86400 / 3600]
  | .day, instant =>
      [(TimeLayout.dateOf instant).year, (TimeLayout.dateOf instant).month, (TimeLayout.dateOf instant).day]
  | .month, instant => [(TimeLayout.dateOf instant).year, (TimeLayout.dateOf instant).month]

def SameUnit (unit : TimeUnit) (first second : Int) : Prop := unit.fields first = unit.fields second

def UnitBefore (unit : TimeUnit) (first second : Int) : Prop := unit.fields first < unit.fields second

/-- The unit of the second instant is the next one after that of the first. -/
def NextUnit (unit : TimeUnit) (first second : Int) : Prop :=
  UnitBefore unit first second ∧
    forall between, ¬ (UnitBefore unit first between ∧ UnitBefore unit between second)

theorem dateOf_valid (instant : Int) : (TimeLayout.dateOf instant).Valid := dateOfDay_valid _

theorem dayNumber_dateOf (instant : Int) :
    (TimeLayout.dateOf instant).dayNumber = TimeLayout.unixSeconds instant / 86400 := dayNumber_dateOfDay _

theorem monthNumber_lt_iff {first second : Date} (firstValid : first.Valid) (secondValid : second.Valid) :
    first.monthNumber < second.monthNumber ↔
      first.year < second.year ∨ (first.year = second.year ∧ (first.month : Int) < second.month) := by
  have firstMonth := firstValid.1
  have secondMonth := secondValid.1
  simp only [Date.monthNumber]
  omega

theorem monthNumber_eq_iff {first second : Date} (firstValid : first.Valid) (secondValid : second.Valid) :
    first.monthNumber = second.monthNumber ↔
      first.year = second.year ∧ (first.month : Int) = second.month := by
  have firstMonth := firstValid.1
  have secondMonth := secondValid.1
  simp only [Date.monthNumber]
  omega

/-- The order of the fields is the order of the positions. -/
theorem unitBefore_iff (unit : TimeUnit) (first second : Int) :
    UnitBefore unit first second ↔ unit.position first < unit.position second := by
  have firstValid := dateOf_valid first
  have secondValid := dateOf_valid second
  have months := monthNumber_lt_iff firstValid secondValid
  have sameMonth := monthNumber_eq_iff firstValid secondValid
  have days := dayNumber_lt_iff firstValid secondValid
  rw [dayNumber_dateOf, dayNumber_dateOf] at days
  unfold UnitBefore
  cases unit with
  | month =>
      simp only [TimeUnit.fields, TimeUnit.position, List.cons_lt_cons_iff, List.not_lt_nil, and_false, or_false]
      exact months.symm
  | day =>
      simp only [TimeUnit.fields, TimeUnit.position, List.cons_lt_cons_iff, List.not_lt_nil, and_false, or_false]
      omega
  | hour =>
      -- Equal dates are needed too, so the days are compared both ways.
      have back := dayNumber_lt_iff secondValid firstValid
      rw [dayNumber_dateOf, dayNumber_dateOf] at back
      have monthsBack := monthNumber_lt_iff secondValid firstValid
      simp only [TimeUnit.fields, TimeUnit.position, List.cons_lt_cons_iff, List.not_lt_nil, and_false, or_false]
      omega

/-- Two instants lie in one unit exactly when they have one position. -/
theorem sameUnit_iff (unit : TimeUnit) (first second : Int) :
    SameUnit unit first second ↔ unit.position first = unit.position second := by
  constructor
  · intro same
    have notBefore : ¬ UnitBefore unit first second := by
      rw [UnitBefore, same]
      exact List.lt_irrefl _
    have notAfter : ¬ UnitBefore unit second first := by
      rw [UnitBefore, same]
      exact List.lt_irrefl _
    rw [unitBefore_iff] at notBefore notAfter
    omega
  · intro same
    unfold SameUnit
    cases unit with
    | month =>
        have months := (monthNumber_eq_iff (dateOf_valid first) (dateOf_valid second)).mp same
        simp only [TimeUnit.fields, months.1, months.2]
    | day =>
        have dates : TimeLayout.dateOf first = TimeLayout.dateOf second := congrArg dateOfDay same
        simp only [TimeUnit.fields, dates]
    | hour =>
        simp only [TimeUnit.position] at same
        have days : TimeLayout.unixSeconds first / 86400 = TimeLayout.unixSeconds second / 86400 := by omega
        have hours : TimeLayout.unixSeconds first % 86400 / 3600 = TimeLayout.unixSeconds second % 86400 / 3600 := by
          omega
        have dates : TimeLayout.dateOf first = TimeLayout.dateOf second := congrArg dateOfDay days
        simp only [TimeUnit.fields, dates, hours]

theorem unixSeconds_unixTime (seconds : Int) : TimeLayout.unixSeconds (unixTime seconds) = seconds := by
  unfold TimeLayout.unixSeconds unixTime
  omega

/-- Every number is the position of some instant. -/
theorem exists_position (unit : TimeUnit) (index : Int) : Exists fun instant => unit.position instant = index := by
  cases unit with
  | hour =>
      refine ⟨unixTime (index * 3600), ?_⟩
      rw [TimeUnit.position, unixSeconds_unixTime]
      omega
  | day =>
      refine ⟨unixTime (index * 86400), ?_⟩
      rw [TimeUnit.position, unixSeconds_unixTime]
      omega
  | month =>
      -- The first of the month.
      have first : (Date.mk (index / 12) (index % 12 + 1).toNat 1).Valid := by
        have months : 1 <= (index % 12 + 1).toNat ∧ (index % 12 + 1).toNat <= 12 := by omega
        exact ⟨months, Nat.le_refl 1, daysIn_pos months _⟩
      refine ⟨unixTime ((Date.mk (index / 12) (index % 12 + 1).toNat 1).dayNumber * 86400), ?_⟩
      rw [TimeUnit.position, TimeLayout.dateOf, unixSeconds_unixTime, Int.mul_ediv_cancel _ (by decide),
        dateOfDay_dayNumber first]
      simp only [Date.monthNumber]
      omega

/-- The next unit has the next position. -/
theorem nextUnit_iff (unit : TimeUnit) (first second : Int) :
    NextUnit unit first second ↔ unit.position second = unit.position first + 1 := by
  unfold NextUnit
  rw [unitBefore_iff]
  constructor
  · rintro ⟨before, nothing⟩
    rcases exists_position unit (unit.position first + 1) with ⟨between, found⟩
    have none := nothing between
    rw [unitBefore_iff, unitBefore_iff, found] at none
    omega
  · intro next
    refine ⟨by omega, ?_⟩
    intro between
    rw [unitBefore_iff, unitBefore_iff]
    omega

/-! ## Names -/

/-- Within the years 0..9999 a unit has one name. -/
theorem timeID_congr {unit : TimeUnit} {first second : Int} (firstYear : TimeLayout.FourDigitYear first)
    (secondYear : TimeLayout.FourDigitYear second) (same : SameUnit unit first second) :
    timeID unit first = timeID unit second := by
  have firstDate := TimeLayout.civilOf_date firstYear
  have secondDate := TimeLayout.civilOf_date secondYear
  have firstHour := TimeLayout.civilOf_hour firstYear
  have secondHour := TimeLayout.civilOf_hour secondYear
  simp only [TimeLayout.Civil.date, Date.ext_iff] at firstDate secondDate
  unfold SameUnit at same
  unfold timeID
  congr 1
  cases unit with
  | month =>
      simp only [TimeUnit.fields, List.cons.injEq, Int.natCast_inj, and_true] at same
      simp only [TimeUnit.layout, TimeLayout.yearMonth, TimeLayout.write, List.flatMap_cons, List.flatMap_nil,
        TimeLayout.Item.write, firstDate, secondDate, same]
  | day =>
      simp only [TimeUnit.fields, List.cons.injEq, Int.natCast_inj, and_true] at same
      simp only [TimeUnit.layout, TimeLayout.dateOnly, TimeLayout.write, List.flatMap_cons, List.flatMap_nil,
        TimeLayout.Item.write, firstDate, secondDate, same]
  | hour =>
      simp only [TimeUnit.fields, List.cons.injEq, Int.natCast_inj, and_true] at same
      have hours : (TimeLayout.civilOf first).hour = (TimeLayout.civilOf second).hour := by omega
      simp only [TimeUnit.layout, TimeLayout.dateHour, TimeLayout.write, List.flatMap_cons, List.flatMap_nil,
        TimeLayout.Item.write, firstDate, secondDate, same, hours]

/-- The start of a unit shows the name of the unit. -/
theorem timeID_start {unit : TimeUnit} {now seconds : Int} (years : TimeLayout.FourDigitYear now)
    (day : seconds / 86400 = TimeLayout.unixSeconds now / 86400)
    (same : unit.position (unixTime seconds) = unit.position now) :
    timeID unit (unixTime seconds) = timeID unit now := by
  have date : TimeLayout.dateOf (unixTime seconds) = TimeLayout.dateOf now := by
    rw [TimeLayout.dateOf, unixSeconds_unixTime, day, TimeLayout.dateOf]
  have startYears : TimeLayout.FourDigitYear (unixTime seconds) := by
    rw [TimeLayout.FourDigitYear, date]
    exact years
  exact timeID_congr startYears years ((sameUnit_iff unit _ _).mpr same)

/-- The name computed from the index of an instant is the name of the instant. -/
theorem idFromIndex_position (unit : TimeUnit) {now : Int} (years : TimeLayout.FourDigitYear now) :
    unit.idFromIndex (unit.position now) = timeID unit now := by
  have bounds := position_bounds unit years
  cases unit with
  | hour =>
      have fits : wrap64 (TimeUnit.hour.position now * 3600) = TimeUnit.hour.position now * 3600 :=
        wrap64_eq (by omega) (by omega)
      rw [TimeUnit.idFromIndex, fits]
      apply timeID_start years
      · simp only [TimeUnit.position]
        omega
      · simp only [TimeUnit.position, unixSeconds_unixTime]
        omega
  | day =>
      have fits : wrap64 (TimeUnit.day.position now * 86400) = TimeUnit.day.position now * 86400 :=
        wrap64_eq (by omega) (by omega)
      rw [TimeUnit.idFromIndex, fits]
      apply timeID_start years
      · simp only [TimeUnit.position]
        omega
      · simp only [TimeUnit.position, unixSeconds_unixTime]
        omega
  | month =>
      have months := (dateOf_valid now).1
      have date := TimeLayout.civilOf_date years
      simp only [TimeLayout.Civil.date, Date.ext_iff] at date
      rcases years with ⟨lower, upper⟩
      have year : ((TimeLayout.dateOf now).monthNumber).tdiv 12 = (TimeLayout.dateOf now).year := by
        rw [Int.tdiv_eq_ediv_of_nonneg (by unfold Date.monthNumber; omega)]
        unfold Date.monthNumber
        omega
      have month : ((TimeLayout.dateOf now).monthNumber).tmod 12 + 1 = (TimeLayout.dateOf now).month := by
        rw [Int.tmod_eq_emod_of_nonneg (by unfold Date.monthNumber; omega)]
        unfold Date.monthNumber
        omega
      simp only [TimeUnit.idFromIndex, TimeUnit.position, year, month, zeroPadded, timeID, TimeUnit.layout,
        TimeLayout.yearMonth, TimeLayout.write, List.flatMap_cons, List.flatMap_nil, TimeLayout.Item.write, date,
        if_neg (show ¬ (TimeLayout.dateOf now).year < 0 by omega),
        if_neg (show ¬ ((TimeLayout.dateOf now).month : Int) < 0 by omega), Int.natAbs_natCast,
        List.append_nil, List.cons_append, List.nil_append]

/-- In the years 0..9999 the index of a bucket name exists, names are equal,
ordered and consecutive in their indices exactly as the calendar units are, and
the index gives the name back. -/
theorem index_follows_calendar (unit : TimeUnit) {first second : Int}
    (firstYear : TimeLayout.FourDigitYear first) (secondYear : TimeLayout.FourDigitYear second) :
    Exists fun firstIndex => Exists fun secondIndex =>
      (Spec.time unit).index (timeID unit first) = some firstIndex ∧
      (Spec.time unit).index (timeID unit second) = some secondIndex ∧
      (firstIndex = secondIndex ↔ SameUnit unit first second) ∧
      (firstIndex < secondIndex ↔ UnitBefore unit first second) ∧
      (secondIndex = firstIndex + 1 ↔ NextUnit unit first second) ∧
      (Spec.time unit).idFromIndex firstIndex = some (timeID unit first) := by
  refine ⟨unit.position first, unit.position second, index_timeID unit firstYear,
    index_timeID unit secondYear, ?_, ?_, ?_, ?_⟩
  · rw [sameUnit_iff]
  · rw [unitBefore_iff]
  · rw [nextUnit_iff]
  · exact congrArg some (idFromIndex_position unit firstYear)

/-- The last second of 1969 and the first one of 1970, in months. -/
theorem index_follows_calendar_epoch :
    TimeLayout.FourDigitYear (unixTime (-1)) ∧ TimeLayout.FourDigitYear (unixTime 0) ∧
      timeID .month (unixTime (-1)) = "1969-12" ∧
      (Exists fun firstIndex => Exists fun secondIndex =>
        (Spec.time .month).index (timeID .month (unixTime (-1))) = some firstIndex ∧
        (Spec.time .month).index (timeID .month (unixTime 0)) = some secondIndex ∧
        (firstIndex = secondIndex ↔ SameUnit .month (unixTime (-1)) (unixTime 0)) ∧
        (firstIndex < secondIndex ↔ UnitBefore .month (unixTime (-1)) (unixTime 0)) ∧
        (secondIndex = firstIndex + 1 ↔ NextUnit .month (unixTime (-1)) (unixTime 0)) ∧
        (Spec.time .month).idFromIndex firstIndex = some (timeID .month (unixTime (-1)))) :=
  ⟨by decide, by decide, by decide, index_follows_calendar .month (by decide) (by decide)⟩

end Bucket
end Shardman
