import Shardman.Bucket.Key

namespace Shardman
namespace Bucket

open Foundation
open Foundation.Binary64

/-!
# Routing keys to buckets

`Spec.id` names the bucket of a key and `classifyWrite` decides whether a
write at some instant goes to that bucket or to the error shard.  On the time
axis the decision compares bucket indices: the retention window reaches
`retentionDepth` buckets back from the current one and `maxFuture` buckets
ahead.  `bucketsOutsideRetention` is the other user of the window, and selects
from a list of known buckets the ones that retention empties.

Both compute the window from formatted bucket names that are parsed back into
indices.  The last part of this module shows that they agree: what retention
selects is what writes are refused for, at that instant and at any later one.
-/

def errorBucketID : String := "__error__"

/-! ## Bucket names -/

/-- The number of decimal digits, as the source counts them. -/
def digitLoop : Nat -> Nat -> Nat
  | 0, _ => 0
  | fuel + 1, number => if 0 < number then digitLoop fuel (number / 10) + 1 else 0

/-- Twenty rounds see every digit of a 64-bit number. -/
def digitWidth (number : Int) : Nat :=
  if number < 10 then 1 else digitLoop 20 number.toNat

def TimeUnit.layout : TimeUnit -> List TimeLayout.Item
  | .hour => TimeLayout.dateHour
  | .day => TimeLayout.dateOnly
  | .month => TimeLayout.yearMonth

def timeID (unit : TimeUnit) (instant : Int) : String :=
  String.ofList (TimeLayout.write unit.layout (TimeLayout.civilOf instant))

/-- Division of 64-bit integers.  A divisor of zero panics, which is `none`. -/
def quotient (dividend divisor : Int) : Option Int :=
  if divisor = 0 then none else some (dividend.tdiv divisor)

/-- The remainder of unsigned integers, which panics in the same case. -/
def remainder (dividend divisor : Nat) : Option Nat :=
  if divisor = 0 then none else some (dividend % divisor)

/-- The index of the numeric bucket that holds a number.  The shift of
negative numbers is done in 64-bit arithmetic. -/
def numericIndexChecked (width number : Int) : Option Int := do
  let idx <- quotient number width
  if number < 0 then quotient (wrap64 (wrap64 (number - width) + 1)) width else pure idx

/-- The name of a key's bucket, or the error that the key has none, unless
naming it panics. -/
def Spec.idChecked (platform : Platform) : Spec -> Key -> Option (Option String)
  | .time unit, key => some ((parseTimeKey platform key).map (timeID unit))
  | .numeric width _ _, key =>
      match parseNumericKey platform key with
      | none => some none
      | some number => do
          let idx <- numericIndexChecked width number
          pure (some (String.ofList ('n' :: Decimal.formatInt idx)))
  | .hash bucketCount _ _, key =>
      match stringifyKey platform key with
      | none => some none
      | some text => do
          let idx <- remainder (platform.sum64String text).toNat bucketCount.toNat
          pure (some (String.ofList ('h' :: Decimal.padded (digitWidth (bucketCount - 1)) idx)))

/-- The name of a key's bucket for callers that do not panic. -/
def Spec.id (platform : Platform) (spec : Spec) (key : Key) : Option String := (spec.idChecked platform key).join

/-- The bucket of the wall clock.  Only the time axis has one. -/
def Spec.currentID (spec : Spec) (now : Int) : Option String :=
  match spec with
  | .time unit => some (timeID unit now)
  | _ => none

/-- The index of a month name: the errors of reading its two numbers are
dropped, so a part that is no number counts as zero. -/
def monthIndex (text : List Char) : Option Int :=
  match text.splitOn '-' with
  | [year, month] =>
      some (wrap64 (wrap64 (wrap64 ((Decimal.readInt year).orZero * 12) +
        (Decimal.readInt month).orZero) - 1))
  | _ => none

def TimeUnit.indexChecked (unit : TimeUnit) (bucketID : String) : Option (Option Int) :=
  match unit with
  | .hour =>
      match TimeLayout.parse TimeLayout.dateHour bucketID.toList with
      | none => some none
      | some instant => (quotient (TimeLayout.unixSeconds instant) 3600).map some
  | .day =>
      match TimeLayout.parse TimeLayout.dateOnly bucketID.toList with
      | none => some none
      | some instant => (quotient (TimeLayout.unixSeconds instant) 86400).map some
  | .month => some (monthIndex bucketID.toList)

def TimeUnit.index (unit : TimeUnit) (bucketID : String) : Option Int := (unit.indexChecked bucketID).join

/-- The index of a bucket name on the time axis. -/
def Spec.indexChecked (spec : Spec) (bucketID : String) : Option (Option Int) :=
  match spec with
  | .time unit => unit.indexChecked bucketID
  | _ => some none

def Spec.index (spec : Spec) (bucketID : String) : Option Int := (spec.indexChecked bucketID).join

/-! ## Routes -/

inductive RouteKind
  | bucket
  | error
deriving DecidableEq, Repr

inductive RouteReason
  | futureDisallowed
  | futureTooFar
  | evicted
  | invalidKey
deriving DecidableEq, Repr

structure WriteRoute where
  kind : RouteKind
  bucketID : String
  reason : Option RouteReason
deriving DecidableEq, Repr

def WriteRoute.toError (reason : RouteReason) : WriteRoute :=
  ⟨.error, errorBucketID, some reason⟩

def WriteRoute.toBucket (bucketID : String) : WriteRoute :=
  ⟨.bucket, bucketID, none⟩

/-- The oldest index inside the retention window, in 64-bit arithmetic. -/
def oldestIndex (currentIdx retentionDepth : Int) : Int :=
  wrap64 (wrap64 (currentIdx - retentionDepth) + 1)

/-- Place an index in the window around the current one. -/
def placeInWindow (targetID : String) (targetIdx currentIdx retentionDepth maxFuture : Int) : WriteRoute :=
  if targetIdx < oldestIndex currentIdx retentionDepth then .toError .evicted
  else if targetIdx <= currentIdx then .toBucket targetID
  else if maxFuture = 0 then .toError .futureDisallowed
  else if targetIdx <= wrap64 (currentIdx + maxFuture) then .toBucket targetID
  else .toError .futureTooFar

/-- Decide between a bucket and the error shard.  The inner `none` is the error
that the source returns when the current bucket has no index, the outer one is a
panic. -/
def classifyWriteChecked (platform : Platform) (spec : Spec) (now : Int) (shardKey : Key)
    (retentionDepth maxFuture : Int) : Option (Option WriteRoute) :=
  match spec with
  | .time _ => do
      match <- spec.idChecked platform shardKey with
      | none => pure (some (.toError .invalidKey))
      | some targetID =>
          match spec.currentID now with
          | none => pure none
          | some currentID =>
              match <- spec.indexChecked targetID with
              | none => pure (some (.toError .invalidKey))
              | some targetIdx =>
                  match <- spec.indexChecked currentID with
                  | none => pure none
                  | some currentIdx =>
                      pure (some (placeInWindow targetID targetIdx currentIdx retentionDepth maxFuture))
  | _ => do
      match <- spec.idChecked platform shardKey with
      | none => pure (some (.toError .invalidKey))
      | some bucketID => pure (some (.toBucket bucketID))

def classifyWrite (platform : Platform) (spec : Spec) (now : Int) (shardKey : Key)
    (retentionDepth maxFuture : Int) : Option WriteRoute :=
  (classifyWriteChecked platform spec now shardKey retentionDepth maxFuture).join

def classifyRead (platform : Platform) (spec : Spec) (now : Int) (shardKey : Key)
    (retentionDepth maxFuture : Int) : Option WriteRoute :=
  classifyWrite platform spec now shardKey retentionDepth maxFuture

/-- Whether retention empties a known bucket, given the oldest kept index. -/
def outsideWindow (spec : Spec) (oldestIdx : Int) (bucketID : String) : Bool :=
  if bucketID = "" ∨ bucketID = errorBucketID then
    false
  else
    match spec.index bucketID with
    | none => false
    | some index => decide (index < oldestIdx)

def bucketsOutsideRetention (spec : Spec) (now : Int) (retentionDepth : Int) (known : List String) :
    Option (List String) :=
  match spec with
  | .time _ =>
      match spec.currentID now with
      | none => none
      | some currentID =>
          match spec.index currentID with
          | none => none
          | some currentIdx =>
              some (known.filter (outsideWindow spec (oldestIndex currentIdx retentionDepth)))
  | _ => some []

/-! ## Nothing panics -/

/-- What the division comes to where the width is not zero. -/
def numericIndex (width number : Int) : Int :=
  if number < 0 then (wrap64 (wrap64 (number - width) + 1)).tdiv width else number.tdiv width

theorem quotient_eq {divisor : Int} (nonzero : divisor ≠ 0) (dividend : Int) :
    quotient dividend divisor = some (dividend.tdiv divisor) := if_neg nonzero

theorem remainder_eq {divisor : Nat} (nonzero : divisor ≠ 0) (dividend : Nat) :
    remainder dividend divisor = some (dividend % divisor) := if_neg nonzero

theorem numericIndexChecked_eq {width : Int} (positive : 0 < width) (number : Int) :
    numericIndexChecked width number = some (numericIndex width number) := by
  have nonzero : width ≠ 0 := Int.ne_of_gt positive
  unfold numericIndexChecked numericIndex
  rw [quotient_eq nonzero, quotient_eq nonzero]
  by_cases negative : number < 0
  · simp only [if_pos negative, Option.bind_eq_bind, Option.bind_some]
  · simp only [if_neg negative, Option.bind_eq_bind, Option.bind_some, Option.pure_def]

section Checked

variable (platform : Platform) (key : Key)

theorem Spec.idChecked_numeric {width : Int} (positive : 0 < width) (fits : width < 2 ^ 63) :
    (Spec.numeric width positive fits).idChecked platform key =
      some ((parseNumericKey platform key).map fun number =>
        String.ofList ('n' :: Decimal.formatInt (numericIndex width number))) := by
  cases parsed : parseNumericKey platform key with
  | none => simp only [Spec.idChecked, parsed, Option.map_none]
  | some number =>
      simp only [Spec.idChecked, parsed, numericIndexChecked_eq positive, Option.bind_eq_bind, Option.bind_some,
        Option.pure_def, Option.map_some]

theorem Spec.idChecked_hash {bucketCount : Int} (positive : 0 < bucketCount) (fits : bucketCount < 2 ^ 63) :
    (Spec.hash bucketCount positive fits).idChecked platform key =
      some ((stringifyKey platform key).map fun text =>
        String.ofList ('h' :: Decimal.padded (digitWidth (bucketCount - 1))
          ((platform.sum64String text).toNat % bucketCount.toNat))) := by
  have nonzero : bucketCount.toNat ≠ 0 := by omega
  cases parsed : stringifyKey platform key with
  | none => simp only [Spec.idChecked, parsed, Option.map_none]
  | some text =>
      simp only [Spec.idChecked, parsed, remainder_eq nonzero, Option.bind_eq_bind, Option.bind_some,
        Option.pure_def, Option.map_some]

theorem Spec.id_of_checked {spec : Spec} {named : Option String} (checked : spec.idChecked platform key = some named) :
    spec.id platform key = named := by
  rw [Spec.id, checked, Option.join_some]

theorem Spec.id_time (unit : TimeUnit) :
    (Spec.time unit).id platform key = (parseTimeKey platform key).map (timeID unit) := rfl

theorem Spec.id_numeric {width : Int} (positive : 0 < width) (fits : width < 2 ^ 63) :
    (Spec.numeric width positive fits).id platform key =
      (parseNumericKey platform key).map fun number =>
        String.ofList ('n' :: Decimal.formatInt (numericIndex width number)) :=
  Spec.id_of_checked platform key (Spec.idChecked_numeric platform key positive fits)

theorem Spec.id_hash {bucketCount : Int} (positive : 0 < bucketCount) (fits : bucketCount < 2 ^ 63) :
    (Spec.hash bucketCount positive fits).id platform key =
      (stringifyKey platform key).map fun text =>
        String.ofList ('h' :: Decimal.padded (digitWidth (bucketCount - 1))
          ((platform.sum64String text).toNat % bucketCount.toNat)) :=
  Spec.id_of_checked platform key (Spec.idChecked_hash platform key positive fits)

/-- The width and the number of buckets are positive, so no key makes naming its
bucket panic. -/
theorem Spec.idChecked_eq (spec : Spec) : spec.idChecked platform key = some (spec.id platform key) := by
  cases spec with
  | time unit => rfl
  | numeric width positive fits => rw [Spec.idChecked_numeric, Spec.id_numeric]
  | hash bucketCount positive fits => rw [Spec.idChecked_hash, Spec.id_hash]

theorem TimeUnit.indexChecked_hour (bucketID : String) :
    TimeUnit.hour.indexChecked bucketID =
      some ((TimeLayout.parse TimeLayout.dateHour bucketID.toList).map fun instant =>
        (TimeLayout.unixSeconds instant).tdiv 3600) := by
  have nonzero : (3600 : Int) ≠ 0 := by decide
  cases parsed : TimeLayout.parse TimeLayout.dateHour bucketID.toList with
  | none => simp only [TimeUnit.indexChecked, parsed, Option.map_none]
  | some instant => simp only [TimeUnit.indexChecked, parsed, quotient_eq nonzero, Option.map_some]

theorem TimeUnit.indexChecked_day (bucketID : String) :
    TimeUnit.day.indexChecked bucketID =
      some ((TimeLayout.parse TimeLayout.dateOnly bucketID.toList).map fun instant =>
        (TimeLayout.unixSeconds instant).tdiv 86400) := by
  have nonzero : (86400 : Int) ≠ 0 := by decide
  cases parsed : TimeLayout.parse TimeLayout.dateOnly bucketID.toList with
  | none => simp only [TimeUnit.indexChecked, parsed, Option.map_none]
  | some instant => simp only [TimeUnit.indexChecked, parsed, quotient_eq nonzero, Option.map_some]

theorem TimeUnit.index_hour (bucketID : String) :
    TimeUnit.hour.index bucketID =
      (TimeLayout.parse TimeLayout.dateHour bucketID.toList).map fun instant =>
        (TimeLayout.unixSeconds instant).tdiv 3600 := by
  rw [TimeUnit.index, TimeUnit.indexChecked_hour, Option.join_some]

theorem TimeUnit.index_day (bucketID : String) :
    TimeUnit.day.index bucketID =
      (TimeLayout.parse TimeLayout.dateOnly bucketID.toList).map fun instant =>
        (TimeLayout.unixSeconds instant).tdiv 86400 := by
  rw [TimeUnit.index, TimeUnit.indexChecked_day, Option.join_some]

theorem TimeUnit.index_month (bucketID : String) : TimeUnit.month.index bucketID = monthIndex bucketID.toList := rfl

theorem TimeUnit.indexChecked_eq (unit : TimeUnit) (bucketID : String) :
    unit.indexChecked bucketID = some (unit.index bucketID) := by
  cases unit with
  | hour => rw [TimeUnit.indexChecked_hour, TimeUnit.index_hour]
  | day => rw [TimeUnit.indexChecked_day, TimeUnit.index_day]
  | month => rfl

theorem Spec.index_time (unit : TimeUnit) (bucketID : String) : (Spec.time unit).index bucketID = unit.index bucketID :=
  rfl

variable (now retentionDepth maxFuture : Int)

theorem classifyWriteChecked_time (unit : TimeUnit) :
    classifyWriteChecked platform (.time unit) now key retentionDepth maxFuture =
      some (((Spec.time unit).id platform key).elim (some (.toError .invalidKey)) fun targetID =>
        (unit.index targetID).elim (some (.toError .invalidKey)) fun targetIdx =>
          (unit.index (timeID unit now)).map fun currentIdx =>
            placeInWindow targetID targetIdx currentIdx retentionDepth maxFuture) := by
  simp only [classifyWriteChecked, Spec.idChecked_eq, Spec.indexChecked, TimeUnit.indexChecked_eq, Spec.currentID,
    Option.bind_eq_bind, Option.bind_some, Option.pure_def]
  cases (Spec.time unit).id platform key with
  | none => rfl
  | some targetID =>
      simp only [Option.elim_some]
      cases unit.index targetID with
      | none => rfl
      | some targetIdx =>
          simp only [Option.elim_some]
          cases unit.index (timeID unit now) <;> rfl

theorem classifyWriteChecked_untimed {spec : Spec} (untimed : spec.axis ≠ .time) :
    classifyWriteChecked platform spec now key retentionDepth maxFuture =
      some (some ((spec.id platform key).elim (.toError .invalidKey) .toBucket)) := by
  cases spec with
  | time unit => exact absurd rfl untimed
  | numeric width positive fits =>
      simp only [classifyWriteChecked, Spec.idChecked_eq, Option.bind_eq_bind, Option.bind_some, Option.pure_def]
      cases (Spec.numeric width positive fits).id platform key <;> rfl
  | hash bucketCount positive fits =>
      simp only [classifyWriteChecked, Spec.idChecked_eq, Option.bind_eq_bind, Option.bind_some, Option.pure_def]
      cases (Spec.hash bucketCount positive fits).id platform key <;> rfl

theorem classifyWrite_elim (unit : TimeUnit) :
    classifyWrite platform (.time unit) now key retentionDepth maxFuture =
      ((Spec.time unit).id platform key).elim (some (.toError .invalidKey)) fun targetID =>
        (unit.index targetID).elim (some (.toError .invalidKey)) fun targetIdx =>
          (unit.index (timeID unit now)).map fun currentIdx =>
            placeInWindow targetID targetIdx currentIdx retentionDepth maxFuture := by
  rw [classifyWrite, classifyWriteChecked_time, Option.join_some]

theorem classifyWrite_untimed {spec : Spec} (untimed : spec.axis ≠ .time) :
    classifyWrite platform spec now key retentionDepth maxFuture =
      some ((spec.id platform key).elim (.toError .invalidKey) .toBucket) := by
  rw [classifyWrite, classifyWriteChecked_untimed platform key now retentionDepth maxFuture untimed, Option.join_some]

/-- The router never panics. -/
theorem classifyWriteChecked_eq (spec : Spec) :
    classifyWriteChecked platform spec now key retentionDepth maxFuture =
      some (classifyWrite platform spec now key retentionDepth maxFuture) := by
  by_cases timed : spec.axis = .time
  · cases spec with
    | time unit => rw [classifyWriteChecked_time, classifyWrite_elim]
    | numeric | hash => cases timed
  · rw [classifyWriteChecked_untimed _ _ _ _ _ timed, classifyWrite_untimed _ _ _ _ _ timed]

end Checked

/-! ## The position of an instant -/

/-- The number of whole units up to an instant, counted without any text. -/
def TimeUnit.position : TimeUnit -> Int -> Int
  | .hour, now => TimeLayout.unixSeconds now / 3600
  | .day, now => TimeLayout.unixSeconds now / 86400
  | .month, now => (TimeLayout.dateOf now).monthNumber

theorem not_dash_of_isDigit {text : List Char} (digits : text.all Char.isDigit = true) : '-' ∉ text := by
  intro member
  have digit := List.all_eq_true.mp digits '-' member
  exact absurd digit (by decide)

/-- A written month has the index of its fields, as long as the year is not
negative. -/
theorem monthIndex_write {civil : TimeLayout.Civil} (years : 0 <= civil.year ∧ civil.year < 2 ^ 50)
    (months : 1 <= civil.month ∧ civil.month <= 12) :
    monthIndex (TimeLayout.write TimeLayout.yearMonth civil) = some (civil.year * 12 + civil.month - 1) := by
  have text : TimeLayout.write TimeLayout.yearMonth civil =
      Decimal.padded 4 civil.year.natAbs ++ '-' :: Decimal.padded 2 civil.month := by
    simp only [TimeLayout.write, TimeLayout.yearMonth, List.flatMap_cons, List.flatMap_nil,
      TimeLayout.Item.write, if_neg (show ¬ civil.year < 0 by omega), List.append_nil, List.cons_append,
      List.nil_append]
  have parts : (TimeLayout.write TimeLayout.yearMonth civil).splitOn '-' =
      [Decimal.padded 4 civil.year.natAbs, Decimal.padded 2 civil.month] := by
    rw [text, List.splitOn_append_cons_self_of_not_mem
      (not_dash_of_isDigit (Decimal.padded_all_isDigit ..)),
      List.splitOn_eq_singleton (not_dash_of_isDigit (Decimal.padded_all_isDigit ..))]
  have yearRead := Decimal.readInt_padded (show 0 < 4 by decide)
    (show civil.year.natAbs < 2 ^ 63 by omega)
  have monthRead := Decimal.readInt_padded (show 0 < 2 by decide) (show civil.month < 2 ^ 63 by omega)
  have inYear : wrap64 (civil.year.natAbs * 12) = civil.year * 12 := by
    unfold wrap64
    omega
  have inMonth : wrap64 (civil.year * 12 + civil.month) = civil.year * 12 + civil.month :=
    wrap64_eq (by omega) (by omega)
  rw [monthIndex, parts]
  simp only [yearRead, monthRead, Decimal.Reading.orZero]
  rw [inYear, inMonth, wrap64_eq (by omega) (by omega)]

/-- In the years 0..9999 the index of the current bucket's name is the
position of the clock. -/
theorem index_timeID (unit : TimeUnit) {now : Int} (years : TimeLayout.FourDigitYear now) :
    unit.index (timeID unit now) = some (unit.position now) := by
  cases unit with
  | hour =>
      have parsed := TimeLayout.parse_dateHour years
      simp only [TimeUnit.index_hour, timeID, TimeUnit.layout, String.toList_ofList, parsed,
        Option.map_some, TimeUnit.position]
      congr 1
      rw [TimeLayout.unixSeconds, Int.mul_ediv_cancel _ (by decide), Int.mul_tdiv_cancel _ (by decide)]
  | day =>
      have parsed := TimeLayout.parse_dateOnly years
      simp only [TimeUnit.index_day, timeID, TimeUnit.layout, String.toList_ofList, parsed,
        Option.map_some, TimeUnit.position]
      congr 1
      rw [TimeLayout.unixSeconds, Int.mul_ediv_cancel _ (by decide), Int.mul_tdiv_cancel _ (by decide)]
  | month =>
      have range := TimeLayout.civilOf_inRange years
      have yearRange := range.year
      simp only [TimeUnit.index_month, timeID, TimeUnit.layout, String.toList_ofList, TimeUnit.position]
      rw [monthIndex_write ⟨yearRange.1, by omega⟩ range.month, ← TimeLayout.civilOf_date years]
      rfl

/-- Time does not move the position back. -/
theorem position_mono (unit : TimeUnit) {first second : Int} (ordered : first <= second) :
    unit.position first <= unit.position second := by
  have seconds : TimeLayout.unixSeconds first <= TimeLayout.unixSeconds second :=
    Int.ediv_le_ediv (by decide) ordered
  cases unit with
  | hour => exact Int.ediv_le_ediv (by decide) seconds
  | day => exact Int.ediv_le_ediv (by decide) seconds
  | month => exact monthNumber_dateOfDay_mono (Int.ediv_le_ediv (by decide) seconds)

/-- The years 0..9999 have few hours. -/
theorem position_narrow (unit : TimeUnit) {now : Int} (years : TimeLayout.FourDigitYear now) :
    -2 ^ 27 <= unit.position now ∧ unit.position now <= 2 ^ 27 := by
  have days := TimeLayout.day_bounds years
  cases unit with
  | hour =>
      simp only [TimeUnit.position]
      omega
  | day =>
      simp only [TimeUnit.position]
      omega
  | month =>
      have months : 1 <= (TimeLayout.dateOf now).month ∧ (TimeLayout.dateOf now).month <= 12 :=
        (dateOfDay_valid _).1
      rcases years with ⟨lower, upper⟩
      simp only [TimeUnit.position, Date.monthNumber]
      omega

theorem position_bounds (unit : TimeUnit) {now : Int} (years : TimeLayout.FourDigitYear now) :
    -2 ^ 40 <= unit.position now ∧ unit.position now <= 2 ^ 40 := by
  have narrow := position_narrow unit years
  omega

/-! ## Retention and writes use the same window -/

/-- The oldest kept index does not move back while the clock runs. -/
theorem oldestIndex_mono {first second retentionDepth : Int}
    (firstLower : -2 ^ 40 <= first) (secondUpper : second <= 2 ^ 40) (ordered : first <= second)
    (positive : 1 <= retentionDepth) (fits : retentionDepth < 2 ^ 62) :
    oldestIndex first retentionDepth <= oldestIndex second retentionDepth := by
  unfold oldestIndex wrap64
  omega

/-- A write on the time axis is refused for its key, or placed in the window
around the position of the clock. -/
theorem classifyWrite_time (platform : Platform) (unit : TimeUnit) {now : Int}
    (years : TimeLayout.FourDigitYear now) (shardKey : Key) (retentionDepth maxFuture : Int) :
    classifyWrite platform (.time unit) now shardKey retentionDepth maxFuture =
      some (match (Spec.time unit).id platform shardKey with
        | none => .toError .invalidKey
        | some targetID =>
            match unit.index targetID with
            | none => .toError .invalidKey
            | some targetIdx =>
                placeInWindow targetID targetIdx (unit.position now) retentionDepth maxFuture) := by
  have current := index_timeID unit years
  cases target : (Spec.time unit).id platform shardKey with
  | none => rw [classifyWrite_elim, target, Option.elim_none]
  | some targetID =>
      cases index : unit.index targetID with
      | none => simp only [classifyWrite_elim, target, Option.elim_some, index, Option.elim_none]
      | some targetIdx => simp only [classifyWrite_elim, target, Option.elim_some, index, current, Option.map_some]

theorem bucketsOutsideRetention_time (unit : TimeUnit) {now : Int}
    (years : TimeLayout.FourDigitYear now) (retentionDepth : Int) (known : List String) :
    bucketsOutsideRetention (.time unit) now retentionDepth known =
      some (known.filter
        (outsideWindow (.time unit) (oldestIndex (unit.position now) retentionDepth))) := by
  simp only [bucketsOutsideRetention, Spec.currentID, Spec.index_time, index_timeID unit years]

theorem outsideWindow_iff {unit : TimeUnit} {bucketID : String} {index : Int} (oldestIdx : Int)
    (found : unit.index bucketID = some index) :
    outsideWindow (.time unit) oldestIdx bucketID = true ↔
      (bucketID ≠ "" ∧ bucketID ≠ errorBucketID) ∧ index < oldestIdx := by
  unfold outsideWindow
  by_cases reserved : bucketID = "" ∨ bucketID = errorBucketID
  · rw [if_pos reserved]
    rcases reserved with same | same <;> simp [same]
  · rw [if_neg reserved, Spec.index_time, found]
    simpa [not_or] using fun _ => not_or.mp reserved

/-- Names that have an index are not the reserved ones. -/
theorem index_reserved (unit : TimeUnit) :
    unit.index "" = none ∧ unit.index errorBucketID = none := by
  cases unit <;> decide

/-- The window refuses an index as evicted exactly below its oldest index, and
routes to no other bucket than the target. -/
theorem placeInWindow_cases (targetID : String)
    (targetIdx currentIdx retentionDepth maxFuture : Int) :
    (targetIdx < oldestIndex currentIdx retentionDepth ∧
      placeInWindow targetID targetIdx currentIdx retentionDepth maxFuture = .toError .evicted) ∨
    (oldestIndex currentIdx retentionDepth <= targetIdx ∧
      (placeInWindow targetID targetIdx currentIdx retentionDepth maxFuture = .toBucket targetID ∨
        placeInWindow targetID targetIdx currentIdx retentionDepth maxFuture =
          .toError .futureDisallowed ∨
        placeInWindow targetID targetIdx currentIdx retentionDepth maxFuture =
          .toError .futureTooFar)) := by
  unfold placeInWindow
  by_cases old : targetIdx < oldestIndex currentIdx retentionDepth
  · exact Or.inl ⟨old, if_pos old⟩
  · refine Or.inr ⟨by omega, ?_⟩
    rw [if_neg old]
    by_cases past : targetIdx <= currentIdx
    · exact Or.inl (if_pos past)
    · rw [if_neg past]
      by_cases closed : maxFuture = 0
      · exact Or.inr (Or.inl (if_pos closed))
      · rw [if_neg closed]
        by_cases near : targetIdx <= wrap64 (currentIdx + maxFuture)
        · exact Or.inl (if_pos near)
        · exact Or.inr (Or.inr (if_neg near))

theorem ofList_cons_ne (head : Char) (rest : List Char) : String.ofList (head :: rest) ≠ "" := by
  intro same
  have lists := congrArg String.toList same
  rw [String.toList_ofList] at lists
  cases lists

/-- Keys are routed to buckets that have a name. -/
theorem classifyWrite_named {platform : Platform} {spec : Spec} {now : Int} {shardKey : Key}
    {retentionDepth maxFuture : Int} {route : WriteRoute}
    (classified : classifyWrite platform spec now shardKey retentionDepth maxFuture = some route)
    (routed : route.kind = .bucket) : route.bucketID ≠ "" := by
  cases spec with
  | time unit =>
      rw [classifyWrite_elim] at classified
      cases target : (Spec.time unit).id platform shardKey with
      | none =>
          rw [target] at classified
          cases classified
          cases routed
      | some targetID =>
          rw [target, Option.elim_some] at classified
          cases found : unit.index targetID with
          | none =>
              rw [found] at classified
              cases classified
              cases routed
          | some targetIdx =>
              have named : targetID ≠ "" := by
                rintro rfl
                rw [(index_reserved unit).1] at found
                cases found
              rw [found, Option.elim_some] at classified
              rcases Option.map_eq_some_iff.mp classified with ⟨currentIdx, _, rfl⟩
              rcases placeInWindow_cases targetID targetIdx currentIdx retentionDepth maxFuture with
                ⟨_, place⟩ | ⟨_, place | place | place⟩
              · rw [place] at routed
                cases routed
              · rw [place]
                exact named
              · rw [place] at routed
                cases routed
              · rw [place] at routed
                cases routed
  | numeric width positive fits =>
      have untimed : (Spec.numeric width positive fits).axis ≠ .time := show Axis.numeric ≠ .time by decide
      rw [classifyWrite_untimed _ _ _ _ _ untimed, Spec.id_numeric] at classified
      cases parsed : parseNumericKey platform shardKey with
      | none =>
          rw [parsed] at classified
          cases classified
          cases routed
      | some number =>
          rw [parsed] at classified
          cases classified
          exact ofList_cons_ne _ _
  | hash bucketCount positive fits =>
      have untimed : (Spec.hash bucketCount positive fits).axis ≠ .time := show Axis.hash ≠ .time by decide
      rw [classifyWrite_untimed _ _ _ _ _ untimed, Spec.id_hash] at classified
      cases parsed : stringifyKey platform shardKey with
      | none =>
          rw [parsed] at classified
          cases classified
          cases routed
      | some text =>
          rw [parsed] at classified
          cases classified
          exact ofList_cons_ne _ _

/-- A bucket that a write is routed to lies inside the window. -/
theorem routed_inside {platform : Platform} {unit : TimeUnit} {now : Int}
    (years : TimeLayout.FourDigitYear now) {shardKey : Key} {retentionDepth maxFuture : Int}
    {route : WriteRoute}
    (classified : classifyWrite platform (.time unit) now shardKey retentionDepth maxFuture = some route)
    (routed : route.kind = .bucket) :
    Exists fun index => unit.index route.bucketID = some index ∧
      oldestIndex (unit.position now) retentionDepth <= index := by
  rw [classifyWrite_time platform unit years, Option.some_inj] at classified
  subst classified
  cases target : (Spec.time unit).id platform shardKey with
  | none =>
      rw [target] at routed
      cases routed
  | some targetID =>
      simp only [target] at routed ⊢
      cases found : unit.index targetID with
      | none =>
          rw [found] at routed
          cases routed
      | some targetIdx =>
          simp only [found] at routed ⊢
          rcases placeInWindow_cases targetID targetIdx (unit.position now) retentionDepth maxFuture
            with ⟨_, placed⟩ | ⟨kept, placed | placed | placed⟩
          · rw [placed] at routed
            cases routed
          · rw [placed]
            exact ⟨targetIdx, found, kept⟩
          · rw [placed] at routed
            cases routed
          · rw [placed] at routed
            cases routed

/-- A valid bucket is refused as evicted exactly when it lies outside the window. -/
theorem evicted_iff_outside {platform : Platform} {unit : TimeUnit} {now : Int}
    (years : TimeLayout.FourDigitYear now) {shardKey : Key} (retentionDepth maxFuture : Int)
    {bucketID : String} {index : Int} (target : (Spec.time unit).id platform shardKey = some bucketID)
    (found : unit.index bucketID = some index) :
    classifyWrite platform (.time unit) now shardKey retentionDepth maxFuture =
        some (.toError .evicted) ↔
      outsideWindow (.time unit) (oldestIndex (unit.position now) retentionDepth) bucketID = true := by
  have unreserved : bucketID ≠ "" ∧ bucketID ≠ errorBucketID := by
    have reserved := index_reserved unit
    constructor <;> intro same <;> rw [same] at found
    · rw [reserved.1] at found
      cases found
    · rw [reserved.2] at found
      cases found
  rw [classifyWrite_time platform unit years, target, Option.some_inj, outsideWindow_iff _ found]
  simp only [found]
  rcases placeInWindow_cases bucketID index (unit.position now) retentionDepth maxFuture
    with ⟨old, placed⟩ | ⟨kept, placed⟩
  · exact ⟨fun _ => ⟨unreserved, old⟩, fun _ => placed⟩
  · constructor
    · intro evicted
      rcases placed with placed | placed | placed <;> rw [placed] at evicted <;> cases evicted
    · rintro ⟨_, old⟩
      omega

/-- A bucket that retention empties at some instant receives no write at that
instant or later; and at one instant a key with a valid bucket is refused as
evicted exactly when retention selects the bucket.  The bound on the depth, which
is stored in 32 bits, keeps the window arithmetic from wrapping. -/
theorem retention_spares_written_buckets (platform : Platform) (unit : TimeUnit)
    {earlier later : Int} (ordered : earlier <= later)
    (earlierYear : TimeLayout.FourDigitYear earlier) (laterYear : TimeLayout.FourDigitYear later)
    {retentionDepth : Int} (positive : 1 <= retentionDepth) (fits : retentionDepth < 2 ^ 62)
    (maxFuture : Int) (known : List String) (shardKey : Key) :
    (Exists fun cleaned => Exists fun route =>
      bucketsOutsideRetention (.time unit) earlier retentionDepth known = some cleaned ∧
        classifyWrite platform (.time unit) later shardKey retentionDepth maxFuture = some route ∧
        forall bucketID, bucketID ∈ cleaned -> ¬ (route.kind = .bucket ∧ route.bucketID = bucketID)) ∧
    (forall bucketID, (Spec.time unit).id platform shardKey = some bucketID ->
      ((Spec.time unit).index bucketID).isSome = true -> bucketID ∈ known ->
      (classifyWrite platform (.time unit) earlier shardKey retentionDepth maxFuture =
          some (.toError .evicted) ↔
        Exists fun cleaned =>
          bucketsOutsideRetention (.time unit) earlier retentionDepth known = some cleaned ∧
            bucketID ∈ cleaned)) := by
  have selection := bucketsOutsideRetention_time unit earlierYear retentionDepth known
  have classified := classifyWrite_time platform unit laterYear shardKey retentionDepth maxFuture
  constructor
  · refine ⟨_, _, selection, classified, ?_⟩
    rintro bucketID selected ⟨routed, same⟩
    have outside := (List.mem_filter.mp selected).2
    rcases routed_inside laterYear classified routed with ⟨index, found, inside⟩
    rw [same] at found
    have window := oldestIndex_mono (position_bounds unit earlierYear).1
      (position_bounds unit laterYear).2 (position_mono unit ordered) positive fits
    have old := ((outsideWindow_iff _ found).mp outside).2
    omega
  · intro bucketID target valid member
    rcases Option.isSome_iff_exists.mp valid with ⟨index, found⟩
    rw [evicted_iff_outside earlierYear retentionDepth maxFuture target found, selection]
    simp only [Option.some_inj, exists_eq_left', List.mem_filter, member, true_and]

/-- Two days after the epoch, with a depth of one day, the first of January
1970 is emptied and written to by no key. -/
theorem retention_spares_written_buckets_epoch :
    bucketsOutsideRetention (.time .day) (2 * 86400 * 10 ^ 9) 1 ["1970-01-01"] = some ["1970-01-01"] ∧
      (classifyWrite samplePlatform (.time .day) (2 * 86400 * 10 ^ 9) (.string "1970-01-01") 1 0 =
          some (.toError .evicted) ↔
        Exists fun cleaned =>
          bucketsOutsideRetention (.time .day) (2 * 86400 * 10 ^ 9) 1 ["1970-01-01"] = some cleaned ∧
            "1970-01-01" ∈ cleaned) :=
  ⟨by decide,
    (retention_spares_written_buckets samplePlatform .day (Int.le_refl (2 * 86400 * 10 ^ 9))
      (by decide) (by decide) (by decide) (by decide) 0 ["1970-01-01"] (.string "1970-01-01")).2
      "1970-01-01" (by decide) (by decide) (by decide)⟩

/-- Without the bound the window arithmetic wraps.  With the largest depth there
is, retention at nine in the evening before the epoch empties the first hour of
1970, which a write three hours later goes to. -/
theorem deepest_retention_empties_written_bucket :
    ((1 : Int) <= 2 ^ 63 - 1 ∧ unixTime (-10800) <= unixTime 0 ∧ TimeLayout.FourDigitYear (unixTime (-10800)) ∧
      TimeLayout.FourDigitYear (unixTime 0)) ∧
    bucketsOutsideRetention (.time .hour) (unixTime (-10800)) (2 ^ 63 - 1) ["1970-01-01T00"] =
      some ["1970-01-01T00"] ∧
    classifyWrite samplePlatform (.time .hour) (unixTime 0) (.int64 0) (2 ^ 63 - 1) 0 =
      some (.toBucket "1970-01-01T00") := by
  decide

end Bucket
end Shardman
